import VmDescriptor.Proofs.Descriptor.Builds
import VmDescriptor.Proofs.Descriptor.DiskOrder
import VmDescriptor.Proofs.DeviceClasses
import VmDescriptor.Proofs.DiskIndices

/-!
The disks of a descriptor: payload CD-ROMs, the user's CD-ROM, a floppy and the disks of the
machine, with the indices that they get.
-/

namespace VmDescriptor.Descriptor

open Program Xml

/-! ### CD-ROMs -/

/-- The CD-ROMs with payloads among some. -/
def payloads (cdroms : List Device) : List Device :=
  cdroms.filter Device.isPayload

/-- The device of the user's CD-ROM among some, if it is stored. -/
def userDevice? (cdroms : List Device) : Option Device :=
  cdroms.find? (!·.isPayload)

/-- Whether there is a user's CD-ROM: its device is stored or media are given for this run. -/
def hasUserCdrom (vm : VirtualMachine) (cdroms : List Device) : Bool :=
  (userDevice? cdroms).isSome || (vm.runOnce && RunOnce.isGiven vm.cdPath)

/-- The indices of the described CD-ROMs, one for each of them. -/
def cdromNumbers (cd : CdInterface) (vm : VirtualMachine) (cdroms : List Device) : List Nat :=
  List.replicate (payloads cdroms).length cd.payloadIndex ++
    if hasUserCdrom vm cdroms then [cd.cdromIndex] else []

/-- The payload CD-ROMs are alike, however many there are. -/
lemma payloadCdroms_eq (cdroms : List Device) (ix : DiskIndices) :
    payloadCdroms cdroms ix =
      (.replicate (payloads cdroms).length (payloadCdrom ix.cd ix.cd.payloadIndex),
        if (payloads cdroms).isEmpty then ix else ix.reservePayload.2) := by
  have hfold (ds : List Device) (nodes : List Node) (ix : DiskIndices) :
      ds.foldl (fun acc _ =>
          (acc.1 ++ [payloadCdrom acc.2.reservePayload.2.cd acc.2.reservePayload.1],
            acc.2.reservePayload.2)) (nodes, ix) =
        (nodes ++ .replicate ds.length (payloadCdrom ix.cd ix.cd.payloadIndex),
          if ds.isEmpty then ix else ix.reservePayload.2) := by
    induction ds generalizing nodes ix with
    | nil => simp
    | cons d rest ih =>
      rw [List.foldl_cons, ih]
      cases rest <;> simp [DiskIndices.reservePayload, List.replicate_succ]
  have h := hfold (payloads cdroms) [] ix
  rw [List.nil_append] at h
  exact h

lemma cd_payloadCdroms (cdroms : List Device) (ix : DiskIndices) :
    (payloadCdroms cdroms ix).2.cd = ix.cd := by
  rw [payloadCdroms_eq]
  dsimp only
  split <;> rfl

lemma userCdroms_eq (vm : VirtualMachine) (cdroms : List Device) (order : BootOrder)
    (ix : DiskIndices) :
    userCdroms vm cdroms order ix =
      if hasUserCdrom vm cdroms then
        ([userCdrom vm ix.cd ix.cd.cdromIndex (userDevice? cdroms) order], ix.reserveCdrom.2)
      else ([], ix) := rfl

section

variable (vm : VirtualMachine) (cs : DeviceClasses)

lemma removableNodes_eq :
    removableNodes vm cs =
      .replicate (payloads cs.cdroms).length
          (payloadCdrom cs.indices.cd cs.indices.cd.payloadIndex) ++
        (if hasUserCdrom vm cs.cdroms then
          [userCdrom vm cs.indices.cd cs.indices.cd.cdromIndex (userDevice? cs.cdroms)
            (bootOrder vm cs)]
        else []) ++
        cs.floppy.toList.map (floppy vm) := by
  rw [removableNodes, userCdroms_eq, cd_payloadCdroms, payloadCdroms_eq]
  cases hasUserCdrom vm cs.cdroms <;> rfl

variable {vm cs} in
lemma mem_removableNodes {n : Node} (hn : n ∈ removableNodes vm cs) :
    n = payloadCdrom cs.indices.cd cs.indices.cd.payloadIndex ∨
      n = userCdrom vm cs.indices.cd cs.indices.cd.cdromIndex (userDevice? cs.cdroms)
        (bootOrder vm cs) ∨
      ∃ d, n = floppy vm d := by
  rw [removableNodes_eq, List.mem_append, List.mem_append] at hn
  rcases hn with (hn | hn) | hn
  · exact .inl (List.eq_of_mem_replicate hn)
  · split at hn
    · exact .inr (.inl (List.mem_singleton.mp hn))
    · cases hn
  · obtain ⟨d, -, rfl⟩ := List.mem_map.mp hn
    exact .inr (.inr ⟨d, rfl⟩)

lemma every_removableNodes :
    EveryIn (Regular (· ∈ diskVocabulary)) (removableNodes vm cs) := by
  intro n hn
  rcases mem_removableNodes hn with rfl | rfl | ⟨d, rfl⟩
  · exact every_payloadCdrom _ _
  · exact every_userCdrom _ _ _ _ _
  · exact every_floppy _ _

/-- What is reserved when the first disk takes its index. -/
lemma cdIndices_eq :
    cdIndices vm cs =
      { cs.indices with
        payload := if (payloads cs.cdroms).isEmpty then cs.indices.payload
          else some cs.indices.cd.payloadIndex
        cdrom := if hasUserCdrom vm cs.cdroms then some cs.indices.cd.cdromIndex
          else cs.indices.cdrom } := by
  rw [cdIndices, userCdroms_eq, payloadCdroms_eq]
  cases (payloads cs.cdroms).isEmpty <;> cases hasUserCdrom vm cs.cdroms <;> rfl

variable {vm cs} in
/-- What a disk must skip are the indices of the described CD-ROMs, if it shares their bus. -/
lemma mem_reserved_cdIndices_iff {arch : Architecture} {cd : CdInterface}
    (hcs : DeviceClasses.OnlyControllers (.initial arch cd) cs.indices) {i : Nat}
    {interface : DiskInterface} :
    i ∈ (cdIndices vm cs).reserved interface ↔ cs.indices.cd.diskInterface? = some interface ∧
      i ∈ cdromNumbers cs.indices.cd vm cs.cdroms := by
  have hpayload : cs.indices.payload = none := by
    rw [hcs]
    rfl
  have hcdrom : cs.indices.cdrom = none := by
    rw [hcs]
    rfl
  have hmem : i ∈ cdromNumbers cs.indices.cd vm cs.cdroms ↔
      (payloads cs.cdroms ≠ [] ∧ i = cs.indices.cd.payloadIndex) ∨
        (hasUserCdrom vm cs.cdroms ∧ i = cs.indices.cd.cdromIndex) := by
    rw [cdromNumbers, List.mem_append, List.mem_replicate, ne_eq, List.length_eq_zero_iff]
    cases hasUserCdrom vm cs.cdroms <;> simp
  by_cases hshared : cs.indices.cd.diskInterface? = some interface
  · simp only [hmem, cdIndices_eq, DiskIndices.reserved, hpayload, hcdrom, hshared, if_true]
    cases payloads cs.cdroms <;> cases hasUserCdrom vm cs.cdroms <;> simp
  · simp [cdIndices_eq, DiskIndices.reserved, hshared]

end

/-! ### Disks with a device -/

/-- A disk with the device that it is plugged with. -/
abbrev PluggedDisk := Disk × Device

/-- The disks that have a device, with the last one of each, in order. -/
def pluggedDisks (vm : Uuid) (devices : List Device) (disks : List Disk) : List PluggedDisk :=
  disks.filterMap fun disk =>
    (devices.reverse.find? (·.id = ⟨disk.id, vm⟩)).map fun device => (disk, device)

/-- Disks with the indices that they take one after the other. -/
def numbered : DiskIndices → List PluggedDisk → List (Disk × Device × Nat)
  | _, [] => []
  | ix, (disk, device) :: rest =>
    let (index, ix) := ix.take disk.attachment.interface
    (disk, device, index) :: numbered ix rest

lemma indexedDisks_eq (vm : Uuid) (devices : List Device) (disks : List Disk)
    (ix : DiskIndices) :
    indexedDisks vm devices disks ix = numbered ix (pluggedDisks vm devices disks) := by
  induction disks generalizing ix with
  | nil => rfl
  | cons disk rest ih =>
    simp only [indexedDisks, pluggedDisks, List.filterMap_cons]
    split
    next h => simp [h, ih, pluggedDisks]
    next device h => simp [h, ih, pluggedDisks, numbered]

/-- The family that counts a disk. -/
def PluggedDisk.family (x : PluggedDisk) : BusFamily :=
  x.1.attachment.interface.family

lemma numbered_cons (ix : DiskIndices) (d : PluggedDisk) (rest : List PluggedDisk) :
    numbered ix (d :: rest) =
      (d.1, d.2, (ix.take d.1.attachment.interface).1) ::
        numbered (ix.take d.1.attachment.interface).2 rest := rfl

lemma start_le_of_mem_numbered {x : Disk × Device × Nat} {ds : List PluggedDisk} :
    ∀ {ix : DiskIndices}, x ∈ numbered ix ds →
      ix.start x.1.attachment.interface.family ≤ x.2.2 := by
  induction ds with
  | nil => exact fun h => absurd h List.not_mem_nil
  | cons d rest ih =>
    intro ix h
    rw [numbered_cons] at h
    rcases List.mem_cons.mp h with rfl | h
    · exact ix.start_le_take _
    · exact Nat.le_trans (ix.start_le_start_take _ _) (ih h)

lemma notMem_reserved_of_mem_numbered {x : Disk × Device × Nat} {ds : List PluggedDisk} :
    ∀ {ix : DiskIndices}, x ∈ numbered ix ds →
      x.2.2 ∉ ix.reserved x.1.attachment.interface := by
  induction ds with
  | nil => exact fun h => absurd h List.not_mem_nil
  | cons d rest ih =>
    intro ix h
    rw [numbered_cons] at h
    rcases List.mem_cons.mp h with rfl | h
    · exact ix.take_notMem_reserved _
    · have := ih h
      rwa [DiskIndices.reserved_take] at this

/-- **Indices grow** within a family. -/
theorem pairwise_numbered (ds : List PluggedDisk) :
    ∀ {ix : DiskIndices}, (numbered ix ds).Pairwise fun x y =>
      x.1.attachment.interface.family = y.1.attachment.interface.family → x.2.2 < y.2.2 := by
  induction ds with
  | nil => exact List.Pairwise.nil
  | cons d rest ih =>
    intro ix
    rw [numbered_cons]
    refine List.pairwise_cons.mpr ⟨fun y hy hfamily => ?_, ih⟩
    have := start_le_of_mem_numbered hy
    rw [← hfamily, DiskIndices.start_take_self] at this
    exact this

/-- Where nothing is reserved, the disks of a family are counted without gaps. -/
theorem filter_numbered (ds : List PluggedDisk) (family : BusFamily) :
    ∀ {ix : DiskIndices},
      (∀ interface : DiskInterface, interface.family = family → ix.reserved interface = []) →
      (numbered ix ds).filter (·.1.attachment.interface.family = family) =
        (ds.filter (·.family = family)).mapIdx fun i x => (x.1, x.2, ix.start family + i) := by
  induction ds with
  | nil => exact fun _ => rfl
  | cons d rest ih =>
    intro ix hfree
    have hrest := @ih (ix.take d.1.attachment.interface).2 hfree
    by_cases hfamily : d.1.attachment.interface.family = family
    · subst hfamily
      have hindex := ix.take_of_reserved_eq_nil _ (hfree _ rfl)
      rw [DiskIndices.start_take_self, hindex] at hrest
      simp only [numbered_cons, List.filter_cons, decide_true, if_true, PluggedDisk.family,
        List.mapIdx_cons, hindex, Nat.add_zero]
      refine congrArg _ (hrest.trans ?_)
      simp only [PluggedDisk.family, Nat.add_assoc, Nat.add_comm 1]
    · rw [DiskIndices.start_take_of_ne _ _ (Ne.symm hfamily)] at hrest
      simpa only [numbered_cons, List.filter_cons, hfamily, decide_false, PluggedDisk.family,
        Bool.false_eq_true, if_false] using hrest

lemma map_numbered (ds : List PluggedDisk) :
    ∀ (ix : DiskIndices), (numbered ix ds).map (fun x => (x.1, x.2.1)) = ds := by
  induction ds with
  | nil => exact fun _ => rfl
  | cons d rest ih =>
    intro ix
    rw [numbered_cons, List.map_cons, ih]

lemma mem_of_mem_numbered {x : Disk × Device × Nat} {ds : List PluggedDisk} {ix : DiskIndices}
    (h : x ∈ numbered ix ds) : (x.1, x.2.1) ∈ ds := by
  rw [← map_numbered ds ix]
  exact List.mem_map_of_mem h

lemma mem_pluggedDisks {vm : Uuid} {devices : List Device} {disks : List Disk}
    {x : PluggedDisk} (h : x ∈ pluggedDisks vm devices disks) :
    x.1 ∈ disks ∧ x.2 ∈ devices ∧ x.2.id = ⟨x.1.id, vm⟩ := by
  obtain ⟨disk, hdisk, h⟩ := List.mem_filterMap.mp h
  obtain ⟨device, hdevice, rfl⟩ := Option.map_eq_some_iff.mp h
  have hid := List.find?_some hdevice
  exact ⟨hdisk, List.mem_reverse.mp (List.mem_of_find?_eq_some hdevice), of_decide_eq_true hid⟩

lemma exists_mem_pluggedDisks {vm : Uuid} {devices : List Device} {disks : List Disk}
    {disk : Disk} (hdisk : disk ∈ disks) (hdevice : ∃ d ∈ devices, d.id = ⟨disk.id, vm⟩) :
    ∃ d, (disk, d) ∈ pluggedDisks vm devices disks := by
  obtain ⟨d, hd, hid⟩ := hdevice
  have hfound : (devices.reverse.find? (·.id = ⟨disk.id, vm⟩)).isSome :=
    List.find?_isSome.mpr ⟨d, List.mem_reverse.mpr hd, decide_eq_true hid⟩
  obtain ⟨found, hfound⟩ := Option.isSome_iff_exists.mp hfound
  exact ⟨found, List.mem_filterMap.mpr ⟨disk, hdisk, by rw [hfound]; rfl⟩⟩

/-- Disks with distinct identities have distinct devices. -/
lemma pairwise_pluggedDisks {vm : Uuid} {devices : List Device} {disks : List Disk}
    (hdisks : (disks.map (·.id)).Nodup) :
    (pluggedDisks vm devices disks).Pairwise fun x y => x.2.id ≠ y.2.id := by
  refine List.Pairwise.filterMap _ ?_ (List.pairwise_map.mp hdisks)
  intro disk disk' hne x hx y hy
  obtain ⟨device, hdevice, rfl⟩ := Option.map_eq_some_iff.mp hx
  obtain ⟨device', hdevice', rfl⟩ := Option.map_eq_some_iff.mp hy
  have hid := List.find?_some hdevice
  have hid' := List.find?_some hdevice'
  simp only [decide_eq_true_iff] at hid hid'
  rw [hid, hid']
  exact fun heq => hne (congrArg DeviceId.device heq)

/-! ### The disk elements of a root -/

section

variable {given : Answers}

lemma elementsNamed_disk_eq {n : Node} {attributes : List (String × String)}
    {children : List Node} (hn : n = .element "disk" attributes children)
    (hchildren : EveryIn (Regular (· ∈ diskContents)) children) :
    elementsNamed "disk" [n] = [n] := by
  rw [hn, elementsNamed_element, if_pos rfl, elementsNamed_eq_nil hchildren (by decide),
    List.append_nil]

lemma elementsNamed_disk_removable {device source : String} {bus : TargetBus} {index : Nat}
    {rest : List Node} (hrest : EveryIn (Regular (· ∈ diskContents)) rest) :
    elementsNamed "disk" [removable device source (target bus index) rest] =
      [removable device source (target bus index) rest] :=
  elementsNamed_disk_eq rfl (by simp +decide [target, hrest])

lemma elementsNamed_disk_removableNodes (vm : VirtualMachine) (cs : DeviceClasses) :
    elementsNamed "disk" (removableNodes vm cs) = removableNodes vm cs := by
  have haddress (a : Address) :
      EveryIn (Regular (· ∈ diskContents)) (addressNodes a) :=
    every_addressNodes (by decide) a
  have hboot (position : Nat) :
      EveryIn (Regular (· ∈ diskContents)) (bootNodes position) :=
    every_bootNodes (by decide) position
  refine elementsNamed_eq_self fun n hn => ?_
  rcases mem_removableNodes hn with rfl | rfl | ⟨d, rfl⟩
  · refine elementsNamed_disk_removable ?_
    split
    · exact haddress _
    · exact everyIn_nil
  · refine elementsNamed_disk_removable ?_
    split
    · exact everyIn_append.mpr ⟨haddress _, hboot _⟩
    · exact everyIn_nil
  · exact elementsNamed_disk_removable (haddress _)

/-- The disks that are described, with their indices. -/
def describedDisks (vm : VirtualMachine) (cs : DeviceClasses) : List (Disk × Device × Nat) :=
  (numbered (cdIndices vm cs) (pluggedDisks vm.id cs.disks (sortedDisks vm.disks))).filter
    (·.2.1.managed)

lemma mem_disks_of_mem_describedDisks {vm : VirtualMachine} {cs : DeviceClasses}
    {x : Disk × Device × Nat} (h : x ∈ describedDisks vm cs) : x.2.1 ∈ cs.disks :=
  (mem_pluggedDisks (mem_of_mem_numbered (List.mem_of_mem_filter h))).2.1

lemma map_describedDisks (vm : VirtualMachine) (cs : DeviceClasses) :
    (describedDisks vm cs).map (·.2.1) =
      ((pluggedDisks vm.id cs.disks (sortedDisks vm.disks)).filter (·.2.managed)).map (·.2) := by
  rw [← map_numbered (pluggedDisks vm.id cs.disks (sortedDisks vm.disks)) (cdIndices vm cs),
    List.filter_map, List.map_map, describedDisks]
  rfl

/-- An element describes a disk, whatever was found out about its storage. -/
def Describes (given : Answers) (config : BuildConfig) (order : BootOrder)
    (x : Disk × Device × Nat) (n : Node) : Prop :=
  ∃ block qos, (disk config ⟨x.2.1, x.1, x.2.2, order.position x.2.1, block, qos⟩).MayReturn
    given n

lemma describes_of_mayReturn_disks {vm : VirtualMachine} {config : BuildConfig}
    {cs : DeviceClasses} {ns : List Node}
    (h : (disks vm config cs.disks (bootOrder vm cs) (cdIndices vm cs)).MayReturn given ns) :
    List.Forall₂ (Describes given config (bootOrder vm cs)) (describedDisks vm cs) ns := by
  simp only [disks, indexedDisks_eq, mayReturn_mapM] at h
  refine h.imp fun x n hx => ?_
  simp only [mayReturn_bind] at hx
  obtain ⟨⟨block, qos⟩, -, hx⟩ := hx
  exact ⟨block, qos, hx⟩

lemma elementsNamed_disk_of_describes {config : BuildConfig} {order : BootOrder}
    {x : Disk × Device × Nat} {n : Node} (h : Describes given config order x n) :
    elementsNamed "disk" [n] = [n] := by
  obtain ⟨block, qos, h⟩ := h
  obtain ⟨before, after, hbefore, hafter, hn⟩ := mayReturn_disk h
  have hparts : ∀ name ∈ diskParts, name ∈ diskContents := by decide
  have htarget : (diskTarget ⟨x.2.1, x.1, x.2.2, order.position x.2.1, block, qos⟩).Every
      (Regular (· ∈ diskContents)) := by
    unfold diskTarget
    split <;> simp +decide [target]
  refine elementsNamed_disk_eq hn ?_
  simp only [everyIn_cons, everyIn_append]
  exact ⟨htarget, ⟨hbefore.imp hparts, every_bootNodes (by decide) _⟩, hafter.imp hparts⟩

lemma isDeviceName_disk : IsDeviceName "disk" :=
  isDeviceName (by decide) (by decide) (by decide)

/-- The disk elements of some devices are the CD-ROMs, the floppy and the described disks. -/
lemma exists_diskNodes_of_mayReturn {req : Request} {config : BuildConfig} {cs : DeviceClasses}
    {devices : List Node} (h : (deviceNodes req config cs).MayReturn given devices) :
    ∃ diskNodes,
      List.Forall₂ (Describes given config (bootOrder req.vm cs)) (describedDisks req.vm cs)
        diskNodes ∧
      elementsNamed "disk" devices = removableNodes req.vm cs ++ diskNodes := by
  obtain ⟨interfaces, hinterfaces, diskNodes, hdisks, hdevices⟩ := elementsNamed_deviceNodes h
  have hdescribes := describes_of_mayReturn_disks hdisks
  have hself : elementsNamed "disk" diskNodes = diskNodes := by
    refine elementsNamed_eq_self fun n hn => ?_
    obtain ⟨x, -, hx⟩ := exists_mem_of_forall₂ hdescribes hn
    exact elementsNamed_disk_of_describes hx
  refine ⟨diskNodes, hdescribes, ?_⟩
  rw [hdevices "disk" (by decide), elementsNamed_eq_nil (every_interfaces hinterfaces) (by decide),
    elementsNamed_disk_removableNodes, hself, List.nil_append]

/-! ### Targets -/

/-- The targets in a disk element. -/
def targets (disk : Node) : List Node :=
  elementsNamed "target" disk.children

lemma targets_removable (device source : String) (bus : TargetBus) (index : Nat)
    {rest : List Node} (hrest : elementsNamed "target" rest = []) :
    targets (removable device source (target bus index) rest) = [target bus index] := by
  have hfixed : elementsNamed "target" [.leaf "source" [("file", source),
      ("startupPolicy", "optional")], target bus index, .leaf "readonly" []] =
      [target bus index] := by
    simp [elementsNamed, Node.elements, Node.leaf, Node.name, target]
  rw [targets, removable, Node.children, elementsNamed_append, hfixed, hrest, List.append_nil]

lemma elementsNamed_addressNodes {name : String} (hname : name ≠ "address") (a : Address) :
    elementsNamed name (addressNodes a) = [] :=
  elementsNamed_eq_nil (every_addressNodes (V := (· = "address")) rfl a) hname

lemma elementsNamed_bootNodes {name : String} (hname : name ≠ "boot") (position : Nat) :
    elementsNamed name (bootNodes position) = [] :=
  elementsNamed_eq_nil (every_bootNodes (V := (· = "boot")) rfl position) hname

lemma targets_payloadCdrom (cd : CdInterface) (index : Nat) :
    targets (payloadCdrom cd index) = [target (.ofCd cd) index] := by
  refine targets_removable _ _ _ _ ?_
  split
  · exact elementsNamed_addressNodes (by decide) _
  · rfl

lemma targets_userCdrom (vm : VirtualMachine) (cd : CdInterface) (index : Nat)
    (device : Option Device) (order : BootOrder) :
    targets (userCdrom vm cd index device order) = [target (.ofCd cd) index] := by
  refine targets_removable _ _ _ _ ?_
  split
  · rw [elementsNamed_append, elementsNamed_addressNodes (by decide),
      elementsNamed_bootNodes (by decide), List.nil_append]
  · rfl

lemma targets_floppy (vm : VirtualMachine) (d : Device) :
    targets (floppy vm d) = [target .fdc 0] :=
  targets_removable _ _ _ _ (elementsNamed_addressNodes (by decide) _)

lemma targets_disk {config : BuildConfig} {d : PlacedDisk} {n : Node}
    (h : (disk config d).MayReturn given n) : targets n = [diskTarget d] := by
  obtain ⟨before, after, hbefore, hafter, rfl⟩ := mayReturn_disk h
  have htarget : elementsNamed "target" [diskTarget d] = [diskTarget d] := by
    unfold diskTarget
    split <;> simp [target]
  rw [targets, Node.children, elementsNamed_cons, elementsNamed_append, elementsNamed_append,
    elementsNamed_eq_nil hbefore (by decide), elementsNamed_bootNodes (by decide),
    elementsNamed_eq_nil hafter (by decide), htarget]
  rfl

end

end VmDescriptor.Descriptor

namespace VmDescriptor.Fixture

open Xml Descriptor

variable {f : Fixture} {fresh : FreshIds} {config : EngineConfig} {root : Node}

/-- Before the disks, indices are given out to controllers alone. -/
lemma onlyControllers_classes (f : Fixture) (fresh : FreshIds) (config : EngineConfig) :
    DeviceClasses.OnlyControllers
      (.initial f.vm.arch (BuildConfig.resolve config f.vm).cdInterface)
      (f.classes fresh config).indices :=
  DeviceClasses.onlyControllers_ofDevices _ _

lemma cd_classes (f : Fixture) (fresh : FreshIds) (config : EngineConfig) :
    (f.classes fresh config).indices.cd = (BuildConfig.resolve config f.vm).cdInterface := by
  rw [onlyControllers_classes]
  rfl

lemma subtype_of_mem_disks {d : Device} (h : d ∈ (f.classes fresh config).disks) :
    d.subtype = "disk" :=
  (DeviceClasses.mem_disks_ofDevices h).2.2

/-- The disk elements of a descriptor are the CD-ROMs, the floppy and the described disks. -/
lemma exists_diskNodes (h : f.root fresh config = .ok root) :
    ∃ diskNodes,
      List.Forall₂ (Describes (Program.givenBy (.ofInventory f.inventory))
          (.resolve config f.vm) (bootOrder f.vm (f.classes fresh config)))
        (describedDisks f.vm (f.classes fresh config)) diskNodes ∧
      elementsNamed "disk" [root] =
        removableNodes f.vm (f.classes fresh config) ++ diskNodes := by
  obtain ⟨devices, hdevices, hnamed⟩ := exists_devices h
  obtain ⟨diskNodes, hdescribes, hdisk⟩ := exists_diskNodes_of_mayReturn hdevices
  refine ⟨diskNodes, hdescribes, ?_⟩
  rw [hnamed "disk" isDeviceName_disk, hdisk]
  rfl

end VmDescriptor.Fixture
