import Mathlib.Data.List.Pairwise
import VmDescriptor.Proofs.BootOrder
import VmDescriptor.Proofs.Descriptor.Disks
import VmDescriptor.Proofs.RunOnce
import VmDescriptor.Proofs.Text.Numeral

/-!
The boot positions in a descriptor.

They stand in the interfaces, the user's CD-ROM and the disks. Managed devices have positions of
their own; an unmanaged device brings the position it is stored with.
-/

namespace VmDescriptor.Descriptor

open Program Text Xml

/-- The boot positions in a tree. -/
def bootOrders (root : Node) : List String :=
  (elementsNamed "boot" [root]).filterMap (·.attribute? "order")

/-! ### Positions as they are written -/

/-- A position as it is written; zero is not. -/
def written (position : Nat) : List String :=
  if position = 0 then [] else [decimal position]

lemma filterMap_bootNodes (position : Nat) :
    (bootNodes position).filterMap (·.attribute? "order") = written position := by
  unfold bootNodes written
  split <;> rfl

lemma flatMap_written {α : Type} (position : α → Nat) (ds : List α) :
    (ds.flatMap fun d => written (position d)) =
      ((ds.map position).filter (· ≠ 0)).map decimal := by
  induction ds with
  | nil => rfl
  | cons d rest ih =>
    rw [List.flatMap_cons, ih, List.map_cons, List.filter_cons, written]
    by_cases hposition : position d = 0 <;> simp [hposition]

lemma disjoint_written {m n : Nat} : (written m).Disjoint (written n) ↔ m = 0 ∨ m ≠ n := by
  unfold written
  by_cases hm : m = 0
  · simp [hm]
  · by_cases hn : n = 0
    · subst hn
      simp [hm]
    · have hdecimal : decimal n = decimal m ↔ n = m := ⟨decimal_injective, congrArg _⟩
      simp [hm, hn, hdecimal, eq_comm]

/-- Positions are distinct as written if no two devices share one that is not zero. -/
lemma nodup_written {α : Type} {ds : List α} {position : α → Nat} :
    (ds.flatMap fun d => written (position d)).Nodup ↔
      ds.Pairwise fun d e => position d = 0 ∨ position d ≠ position e := by
  have hnodup (m : Nat) : (written m).Nodup := by
    unfold written
    split <;> simp
  rw [List.nodup_flatMap, and_iff_right fun d _ => hnodup _]
  exact List.Pairwise.iff fun _ _ => disjoint_written

/-! ### The elements with positions -/

section

variable {given : Answers} {config : BuildConfig} {vm : VirtualMachine}

lemma elementsNamed_boot_bootNodes (position : Nat) :
    elementsNamed "boot" (bootNodes position) = bootNodes position := by
  unfold bootNodes
  split <;> simp

lemma boot_interfaceNodes {order : BootOrder} {d : InterfaceDevice} {ns : List Node}
    (h : (interfaceNodes vm order d).MayReturn given ns) :
    elementsNamed "boot" ns =
      if (vm.nicOf? d.device.id).isSome then bootNodes (order.position d.device) else [] := by
  unfold interfaceNodes at h
  split at h
  next hnic =>
    simp only [mayReturn_bind, mayEnd_pure, Except.ok.injEq] at h
    obtain ⟨-, -, rfl⟩ := h
    rw [hnic]
    rfl
  next nic hnic =>
    simp only [mayReturn_bind, mayEnd_pure, Except.ok.injEq] at h
    obtain ⟨backing, -, n, hn, rfl⟩ := h
    obtain ⟨attributes, before, after, -, hbefore, hafter, rfl⟩ := mayReturn_interface hn
    rw [hnic, elementsNamed_element, if_neg (by decide), elementsNamed_append,
      elementsNamed_append, elementsNamed_eq_nil hbefore (by decide),
      elementsNamed_boot_bootNodes, elementsNamed_eq_nil hafter (by decide)]
    simp

lemma boot_of_describes {order : BootOrder} {x : Disk × Device × Nat} {n : Node}
    (h : Describes given config order x n) :
    elementsNamed "boot" [n] = bootNodes (order.position x.2.1) := by
  obtain ⟨block, qos, h⟩ := h
  obtain ⟨before, after, hbefore, hafter, rfl⟩ := mayReturn_disk h
  have htarget : elementsNamed "boot"
      [diskTarget ⟨x.2.1, x.1, x.2.2, order.position x.2.1, block, qos⟩] = [] := by
    unfold diskTarget
    split <;> simp [target]
  rw [elementsNamed_element, if_neg (by decide), elementsNamed_cons, elementsNamed_append,
    elementsNamed_append, htarget, elementsNamed_eq_nil hbefore (by decide),
    elementsNamed_boot_bootNodes, elementsNamed_eq_nil hafter (by decide)]
  simp

lemma boot_removable (device source : String) (bus : TargetBus) (index : Nat)
    (rest : List Node) :
    elementsNamed "boot" [removable device source (target bus index) rest] =
      elementsNamed "boot" rest := by
  have hfixed : elementsNamed "boot" [.leaf "source" [("file", source),
      ("startupPolicy", "optional")], target bus index, .leaf "readonly" []] = [] := by
    simp [elementsNamed, Node.elements, Node.leaf, Node.name, target]
  rw [removable, elementsNamed_element, if_neg (by decide), elementsNamed_append, hfixed]
  rfl

/-- The user's CD-ROM has a position if its device is stored. -/
lemma boot_userCdrom (cd : CdInterface) (index : Nat) (device : Option Device)
    (order : BootOrder) :
    elementsNamed "boot" [userCdrom vm cd index device order] =
      device.toList.flatMap fun d => bootNodes (order.position d) := by
  cases device with
  | none =>
    rw [userCdrom, boot_removable]
    rfl
  | some d =>
    rw [userCdrom, boot_removable, elementsNamed_append, elementsNamed_addressNodes (by decide),
      elementsNamed_boot_bootNodes, List.nil_append, Option.toList_some, List.flatMap_singleton]

lemma boot_removableNodes (cs : DeviceClasses) :
    elementsNamed "boot" (removableNodes vm cs) =
      (userDevice? cs.cdroms).toList.flatMap fun d =>
        bootNodes ((bootOrder vm cs).position d) := by
  have hpayload (n : Node) (hn : n ∈ List.replicate (payloads cs.cdroms).length
      (payloadCdrom cs.indices.cd cs.indices.cd.payloadIndex)) :
      elementsNamed "boot" [n] = [] := by
    rw [List.eq_of_mem_replicate hn, payloadCdrom, boot_removable]
    split
    · exact elementsNamed_addressNodes (by decide) _
    · rfl
  have hfloppy (d : Device) : elementsNamed "boot" [floppy vm d] = [] := by
    rw [floppy, boot_removable, elementsNamed_addressNodes (by decide)]
  rw [removableNodes_eq, elementsNamed_append, elementsNamed_append,
    elementsNamed_eq_flatMap (List.replicate _ _), List.flatMap_eq_nil_iff.mpr hpayload,
    elementsNamed_eq_flatMap (cs.floppy.toList.map _)]
  have huser : elementsNamed "boot" (if hasUserCdrom vm cs.cdroms then
        [userCdrom vm cs.indices.cd cs.indices.cd.cdromIndex (userDevice? cs.cdroms)
          (bootOrder vm cs)]
      else []) = (userDevice? cs.cdroms).toList.flatMap fun d =>
        bootNodes ((bootOrder vm cs).position d) := by
    split
    next => exact boot_userCdrom _ _ _ _
    next hnone =>
      have hdevice : userDevice? cs.cdroms = none := by
        simp only [hasUserCdrom, Bool.or_eq_true, not_or, Option.not_isSome_iff_eq_none] at hnone
        exact hnone.1
      rw [hdevice]
      rfl
  rw [huser]
  cases cs.floppy <;> simp [hfloppy]

lemma boot_interfaces {cs : DeviceClasses} {nss : List (List Node)}
    (h : (cs.interfaces.mapM (interfaceNodes vm (bootOrder vm cs))).MayReturn given nss) :
    elementsNamed "boot" nss.flatten =
      ((cs.interfaces.map (·.device)).filter fun d => (vm.nicOf? d.id).isSome).flatMap fun d =>
        bootNodes ((bootOrder vm cs).position d) := by
  rw [elementsNamed_flatten,
    flatMap_eq_of_forall₂ (mayReturn_mapM.mp h) fun _ _ => boot_interfaceNodes]
  induction cs.interfaces with
  | nil => rfl
  | cons d rest ih =>
    rw [List.flatMap_cons, List.map_cons, List.filter_cons, ih]
    cases (vm.nicOf? d.device.id).isSome <;> rfl

lemma boot_disks {cs : DeviceClasses} {ns : List Node}
    (h : (disks vm config cs.disks (bootOrder vm cs) (cdIndices vm cs)).MayReturn given ns) :
    elementsNamed "boot" ns = ((describedDisks vm cs).map (·.2.1)).flatMap fun d =>
      bootNodes ((bootOrder vm cs).position d) := by
  rw [elementsNamed_eq_flatMap, flatMap_eq_of_forall₂ (describes_of_mayReturn_disks h)
    fun _ _ => boot_of_describes, List.flatMap_map]

end

end VmDescriptor.Descriptor

namespace VmDescriptor.Fixture

open Descriptor RunOnce Xml

variable {f : Fixture} {fresh : FreshIds} {config : EngineConfig} {root : Node}

/-- The devices whose elements have a position, if it is not zero, in the order of the elements:
interfaces with a NIC, the user's CD-ROM and the described disks. -/
def booted (f : Fixture) (fresh : FreshIds) (config : EngineConfig) : List Device :=
  (((f.classes fresh config).interfaces.map (·.device)).filter fun d =>
      (f.vm.nicOf? d.id).isSome) ++
    (userDevice? (f.classes fresh config).cdroms).toList ++
    (describedDisks f.vm (f.classes fresh config)).map (·.2.1)

/-- The position of a device of the machine. -/
def position (f : Fixture) (fresh : FreshIds) (config : EngineConfig) (d : Device) : Nat :=
  (bootOrder f.vm (f.classes fresh config)).position d

/-- The positions in a descriptor are those of its booted devices. -/
lemma bootOrders_eq (h : f.root fresh config = .ok root) :
    bootOrders root =
      (f.booted fresh config).flatMap fun d => written (f.position fresh config d) := by
  obtain ⟨devices, hdevices, hnamed⟩ := exists_devices h
  obtain ⟨interfaces, hinterfaces, diskNodes, hdisks, hdevices⟩ :=
    elementsNamed_deviceNodes hdevices
  have hnodes : elementsNamed "boot" [root] =
      (f.booted fresh config).flatMap fun d => bootNodes (f.position fresh config d) := by
    rw [hnamed "boot" (isDeviceName (by decide) (by decide) (by decide)),
      hdevices "boot" (by decide), boot_removableNodes, booted, List.flatMap_append,
      List.flatMap_append]
    exact congrArg₂ _ (congrArg₂ _ (boot_interfaces hinterfaces) rfl) (boot_disks hdisks)
  rw [bootOrders, hnodes, List.filterMap_flatMap]
  simp only [filterMap_bootNodes]

/-! ### The identities of booted devices -/

/-- The devices that the machine is started with and may boot from. -/
def started (f : Fixture) (fresh : FreshIds) : List Device :=
  (RunOnce.devices fresh f.vm f.payload (f.inventory.devicesOf f.vm.id)).filter mayBoot

/-- The device is stored and its position is computed anew. -/
def Renumbered (f : Fixture) (d : Device) : Prop :=
  d.managed ∧ runPayload? f.vm f.payload ≠ some d

/-- The classes of devices that may be booted from. -/
def bootable (f : Fixture) (fresh : FreshIds) (config : EngineConfig) : List Device :=
  (f.classes fresh config).disks ++ (f.classes fresh config).cdroms ++
    (f.classes fresh config).interfaces.map (·.device)

lemma mem_disks_classes {d : Device} (h : d ∈ (f.classes fresh config).disks) :
    d ∈ f.started fresh ∧ d.type = .disk ∧ d.subtype = "disk" := by
  obtain ⟨hmem, htype, hsubtype⟩ := DeviceClasses.mem_disks_ofDevices h
  exact ⟨List.mem_filter.mpr ⟨hmem, by simp [mayBoot, htype, hsubtype]⟩, htype, hsubtype⟩

lemma mem_cdroms_classes {d : Device} (h : d ∈ (f.classes fresh config).cdroms) :
    d ∈ f.started fresh ∧ d.type = .disk ∧ d.subtype = "cdrom" := by
  obtain ⟨hmem, htype, hsubtype⟩ := DeviceClasses.mem_cdroms_ofDevices h
  exact ⟨List.mem_filter.mpr ⟨hmem, by simp [mayBoot, htype, hsubtype]⟩, htype, hsubtype⟩

lemma interfaces_sublist :
    ((f.classes fresh config).interfaces.map (·.device)).Sublist (f.started fresh) := by
  rw [classes, classified, DeviceClasses.map_device_interfaces]
  refine List.monotone_filter_right _ fun d hd => ?_
  rw [mayBoot, DeviceClasses.type_of_interfaceDevice? hd]
  rfl

lemma mem_interfaces_classes {d : Device}
    (h : d ∈ (f.classes fresh config).interfaces.map (·.device)) :
    d ∈ f.started fresh ∧ d.type = .interface := by
  refine ⟨interfaces_sublist.subset h, ?_⟩
  rw [classes, classified, DeviceClasses.map_device_interfaces, List.mem_filter] at h
  exact DeviceClasses.type_of_interfaceDevice? h.2

lemma mem_started_of_mem_bootable {d : Device} (h : d ∈ f.bootable fresh config) :
    d ∈ f.started fresh := by
  rcases List.mem_append.mp h with h | h
  · rcases List.mem_append.mp h with h | h
    · exact (mem_disks_classes h).1
    · exact (mem_cdroms_classes h).1
  · exact (mem_interfaces_classes h).1

lemma mem_bootable_of_mem_booted {d : Device} (h : d ∈ f.booted fresh config) :
    d ∈ f.bootable fresh config := by
  simp only [booted, List.mem_append] at h
  simp only [bootable, List.mem_append]
  rcases h with (h | h) | h
  · exact .inr (List.mem_of_mem_filter h)
  · exact .inl (.inr (List.mem_of_find?_eq_some (Option.mem_toList.mp h)))
  · obtain ⟨x, hx, rfl⟩ := List.mem_map.mp h
    exact .inl (.inl (mem_disks_of_mem_describedDisks hx))

lemma pairwise_started (fresh : FreshIds)
    (hdevices : ((f.inventory.devicesOf f.vm.id).map (·.id)).Nodup) :
    (f.started fresh).Pairwise (Apart (runPayload? f.vm f.payload)) :=
  pairwise_devices f.payload hdevices

section

variable {R : Device → Device → Prop} [Std.Symm R]

/-- What holds between the devices started with, holds between those of different classes. -/
lemma pairwise_bootable (hstarted : (f.started fresh).Pairwise R) :
    (f.bootable fresh config).Pairwise R := by
  have hsublist (p : Device → Bool) (hp : ∀ d, p d → mayBoot d) :
      ((f.startDevices fresh).filter p).Pairwise R :=
    hstarted.sublist (List.monotone_filter_right _ hp)
  have hdisk {subtype : String} (h : subtype = "disk" ∨ subtype = "cdrom") (d : Device)
      (hd : DeviceClasses.isDiskOf subtype d) : mayBoot d := by
    obtain ⟨htype, rfl⟩ := DeviceClasses.of_isDiskOf hd
    simpa [mayBoot, htype] using h
  simp only [bootable, List.pairwise_append, List.mem_append]
  refine ⟨⟨?_, ?_, ?_⟩, hstarted.sublist interfaces_sublist, ?_⟩
  · rw [classes, classified, DeviceClasses.disks_ofDevices]
    exact hsublist _ (hdisk (.inl rfl))
  · rw [classes, classified, DeviceClasses.cdroms_ofDevices]
    exact hsublist _ (hdisk (.inr rfl))
  · intro d hd e he
    obtain ⟨hd, -, hsubtype⟩ := mem_disks_classes hd
    obtain ⟨he, -, hsubtype'⟩ := mem_cdroms_classes he
    refine hstarted.forall hd he ?_
    rintro rfl
    exact absurd (hsubtype.symm.trans hsubtype') (by decide)
  · intro d hd e he
    obtain ⟨he, htype'⟩ := mem_interfaces_classes he
    have hmem : d ∈ f.started fresh ∧ d.type = .disk := by
      rcases hd with hd | hd
      · exact ⟨(mem_disks_classes hd).1, (mem_disks_classes hd).2.1⟩
      · exact ⟨(mem_cdroms_classes hd).1, (mem_cdroms_classes hd).2.1⟩
    refine hstarted.forall hmem.1 he ?_
    rintro rfl
    exact absurd (hmem.2.symm.trans htype') (by decide)

/-- Of booted devices it holds between all, if it does between devices of different identities. -/
lemma pairwise_booted_of (hstarted : (f.started fresh).Pairwise R)
    (hids : ∀ {d e : Device}, d.id ≠ e.id → R d e) (hdisks : (f.vm.disks.map (·.id)).Nodup) :
    (f.booted fresh config).Pairwise R := by
  have hplugged : ((describedDisks f.vm (f.classes fresh config)).map (·.2.1)).Pairwise R := by
    have hsorted := ((sortedDisks_perm f.vm.disks).map (·.id)).nodup_iff.mpr hdisks
    rw [map_describedDisks, List.pairwise_map]
    exact ((pairwise_pluggedDisks hsorted).filter _).imp hids
  have hbootable : (f.bootable fresh config).Pairwise R := pairwise_bootable hstarted
  obtain ⟨hfixed, hinterfaces, hbetween⟩ := List.pairwise_append.mp hbootable
  obtain ⟨-, -, hcdroms⟩ := List.pairwise_append.mp hfixed
  have huser {d : Device} (hd : d ∈ (userDevice? (f.classes fresh config).cdroms).toList) :
      d ∈ (f.classes fresh config).cdroms :=
    List.mem_of_find?_eq_some (Option.mem_toList.mp hd)
  have hdescribed {d : Device}
      (hd : d ∈ (describedDisks f.vm (f.classes fresh config)).map (·.2.1)) :
      d ∈ (f.classes fresh config).disks := by
    obtain ⟨x, hx, rfl⟩ := List.mem_map.mp hd
    exact mem_disks_of_mem_describedDisks hx
  simp only [booted, List.pairwise_append, List.mem_append]
  refine ⟨⟨hinterfaces.filter _, ?_, fun d hd e he => ?_⟩, hplugged, fun d hd e he => ?_⟩
  · cases userDevice? (f.classes fresh config).cdroms <;> simp
  · exact symm (hbetween _ (List.mem_append_right _ (huser he)) _ (List.mem_of_mem_filter hd))
  · rcases hd with hd | hd
    · exact symm (hbetween _ (List.mem_append_left _ (hdescribed he)) _
        (List.mem_of_mem_filter hd))
    · exact symm (hcdroms _ (hdescribed he) _ (huser hd))

end

/-- Booted devices have identities of their own, but for the payload. -/
lemma pairwise_booted (hdisks : (f.vm.disks.map (·.id)).Nodup)
    (hdevices : ((f.inventory.devicesOf f.vm.id).map (·.id)).Nodup) :
    (f.booted fresh config).Pairwise (Apart (runPayload? f.vm f.payload)) :=
  pairwise_booted_of (pairwise_started fresh hdevices) (fun hne heq => absurd heq hne) hdisks

/-! ### Positions -/

/-- Two devices with positions computed anew do not share one. -/
lemma pairwise_renumbered (fresh : FreshIds) (config : EngineConfig)
    (hdisks : (f.vm.disks.map (·.id)).Nodup)
    (hdevices : ((f.inventory.devicesOf f.vm.id).map (·.id)).Nodup) :
    (f.booted fresh config).Pairwise fun d e => f.Renumbered d → f.Renumbered e →
      f.position fresh config d = 0 ∨ f.position fresh config d ≠ f.position fresh config e := by
  have hmanaged {d : Device} (hd : d ∈ f.booted fresh config) (h : d.managed) :
      d.id ∈ BootOrder.managedIds (f.classes fresh config).disks (f.classes fresh config).cdroms
        ((f.classes fresh config).interfaces.map (·.device)) := by
    rw [BootOrder.managedIds_eq]
    exact BootOrder.mem_managed.mpr ⟨d, mem_bootable_of_mem_booted hd, h, rfl⟩
  refine (pairwise_booted hdisks hdevices).imp_of_mem fun hd he happart hd' he' => ?_
  by_contra hclash
  rw [not_or, not_not] at hclash
  have hid := BootOrder.position_injective (hmanaged hd hd'.1) (hmanaged he he'.1)
    hclash.2 hclash.1
  rcases happart hid with h | h
  · exact hd'.2 h
  · exact he'.2 h

/-- An unmanaged device keeps its position, unless the payload has its identity. -/
lemma position_of_unmanaged (hdevices : ((f.inventory.devicesOf f.vm.id).map (·.id)).Nodup)
    {d : Device} (hd : d ∈ f.booted fresh config) (hunmanaged : d.managed = false)
    (hpayload : ∀ p, runPayload? f.vm f.payload = some p → p.id ≠ d.id) :
    f.position fresh config d = d.bootOrder.toNat := by
  refine BootOrder.position_of_notMem fun hmem => ?_
  rw [BootOrder.managedIds_eq] at hmem
  obtain ⟨e, he, hmanaged, hid⟩ := BootOrder.mem_managed.mp hmem
  have hne : e ≠ d := by
    rintro rfl
    rw [hunmanaged] at hmanaged
    cases hmanaged
  rcases (pairwise_started fresh hdevices).forall (mem_started_of_mem_bootable he)
    (mem_started_of_mem_bootable (mem_bootable_of_mem_booted hd)) hne hid with h | h
  · exact hpayload e h hid
  · exact hpayload d h rfl

/-- Only devices that keep their stored position can clash with another one. -/
lemma nodup_bootOrders_iff (hdisks : (f.vm.disks.map (·.id)).Nodup)
    (hdevices : ((f.inventory.devicesOf f.vm.id).map (·.id)).Nodup)
    (hroot : f.root fresh config = .ok root) :
    (bootOrders root).Nodup ↔
      (f.booted fresh config).Pairwise fun d e => ¬ (f.Renumbered d ∧ f.Renumbered e) →
        f.position fresh config d = 0 ∨
          f.position fresh config d ≠ f.position fresh config e := by
  rw [bootOrders_eq hroot, nodup_written]
  constructor
  · refine List.Pairwise.imp ?_
    intro d e hpair _
    exact hpair
  · intro hpositions
    have hrenumbered := pairwise_renumbered fresh config hdisks hdevices
    refine (hpositions.and hrenumbered).imp fun {d e} hpair => ?_
    by_cases hboth : f.Renumbered d ∧ f.Renumbered e
    · exact hpair.2 hboth.1 hboth.2
    · exact hpair.1 hboth

/-- **Boot positions are distinct** in a descriptor just when no device that keeps its stored
position has that of another device: positions computed anew never clash. -/
theorem bootOrders_nodup_iff {text : String} (hdisks : (f.vm.disks.map (·.id)).Nodup)
    (hdevices : ((f.inventory.devicesOf f.vm.id).map (·.id)).Nodup)
    (h : (f.build fresh config).result = .ok text) :
    ∃ root, f.root fresh config = .ok root ∧ root.document = .ok text ∧
      ((bootOrders root).Nodup ↔
        (f.booted fresh config).Pairwise fun d e => ¬ (f.Renumbered d ∧ f.Renumbered e) →
          f.position fresh config d = 0 ∨
            f.position fresh config d ≠ f.position fresh config e) ∧
      ((f.booted fresh config).Pairwise fun d e => f.Renumbered d → f.Renumbered e →
        f.position fresh config d = 0 ∨
          f.position fresh config d ≠ f.position fresh config e) ∧
      ∀ d ∈ f.booted fresh config, d.managed = false →
        (∀ p, runPayload? f.vm f.payload = some p → p.id ≠ d.id) →
          f.position fresh config d = d.bootOrder.toNat := by
  obtain ⟨root, hroot, hdocument⟩ := Request.build_ok_iff.mp h
  exact ⟨root, hroot, hdocument, nodup_bootOrders_iff hdisks hdevices hroot,
    pairwise_renumbered fresh config hdisks hdevices, fun d => position_of_unmanaged hdevices⟩

/-- A machine that boots from its disk, with an unmanaged CD-ROM that is stored with a position. -/
def withUnmanagedCdrom (position : UInt32) : Fixture :=
  plain (plainMachine none [plainDisk ⟨1⟩ .virtio] [])
    [.plain ⟨⟨1⟩, default⟩ .disk "disk",
      { Device.plain ⟨⟨2⟩, default⟩ .disk "cdrom" with managed := false, bootOrder := position }]

/-- With a position of its own the CD-ROM does not get into the way of the disk. -/
theorem bootOrders_nodup_apart :
    ((withUnmanagedCdrom 2).vm.disks.map (·.id)).Nodup ∧
      (((withUnmanagedCdrom 2).inventory.devicesOf (withUnmanagedCdrom 2).vm.id).map
        (·.id)).Nodup ∧
      ∃ text root,
        ((withUnmanagedCdrom 2).build (.constant default) .empty).result = .ok text ∧
          (withUnmanagedCdrom 2).root (.constant default) .empty = .ok root ∧
          root.document = .ok text ∧ (bootOrders root).Nodup := by
  have hdisks : ((withUnmanagedCdrom 2).vm.disks.map (·.id)).Nodup := by decide
  have hdevices : (((withUnmanagedCdrom 2).inventory.devicesOf
      (withUnmanagedCdrom 2).vm.id).map (·.id)).Nodup := by decide
  obtain ⟨text, h⟩ := Program.exists_ok
    (r := ((withUnmanagedCdrom 2).build (.constant default) .empty).result) (by decide +kernel)
  obtain ⟨root, hroot, hdocument, hnodup, -⟩ := bootOrders_nodup_iff hdisks hdevices h
  have hpositions : ((withUnmanagedCdrom 2).booted (.constant default) .empty).map
      ((withUnmanagedCdrom 2).position (.constant default) .empty) = [2, 1] := by decide +kernel
  have hdistinct : [2, 1].Pairwise (fun i j : Nat => i = 0 ∨ i ≠ j) := by decide
  rw [← hpositions, List.pairwise_map] at hdistinct
  refine ⟨hdisks, hdevices, text, root, h, hroot, hdocument, hnodup.mpr (hdistinct.imp ?_)⟩
  intro d e hpair _
  exact hpair

/-- Stored with the position of the disk, it has that position too. -/
theorem bootOrders_stored_not_nodup :
    ((withUnmanagedCdrom 1).vm.disks.map (·.id)).Nodup ∧
      (((withUnmanagedCdrom 1).inventory.devicesOf (withUnmanagedCdrom 1).vm.id).map
        (·.id)).Nodup ∧
      ∃ text root,
        ((withUnmanagedCdrom 1).build (.constant default) .empty).result = .ok text ∧
          (withUnmanagedCdrom 1).root (.constant default) .empty = .ok root ∧
          root.document = .ok text ∧ ¬ (bootOrders root).Nodup := by
  have horders : ((withUnmanagedCdrom 1).root (.constant default) .empty).toOption.map
      bootOrders = some ["1", "1"] := by decide +kernel
  obtain ⟨text, h⟩ := Program.exists_ok
    (r := ((withUnmanagedCdrom 1).build (.constant default) .empty).result) (by decide +kernel)
  obtain ⟨root, hroot, hdocument⟩ := Request.build_ok_iff.mp h
  have hroot : (withUnmanagedCdrom 1).root (.constant default) .empty = .ok root := hroot
  rw [hroot] at horders
  refine ⟨by decide, by decide, text, root, h, hroot, hdocument, ?_⟩
  rw [Option.some.inj horders]
  decide

end VmDescriptor.Fixture
