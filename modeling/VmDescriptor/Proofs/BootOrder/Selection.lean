import VmDescriptor.Proofs.BootOrder

/-!
The devices that a boot order selects.

Devices and NICs with identities of their own are numbered from 1 on without gaps: class by class
as the boot sequence has them, and within a class in the order of its devices or NICs. All other
managed devices are not booted from. Whatever the identities, no two share a position.
-/

namespace VmDescriptor.BootOrder

variable {classes : List BootClass} {diskDevices cdroms interfaces : List Device}
  {disks : List Disk} {nics : List Nic}

/-- The managed interface device of a NIC. -/
def interfaceOf? (interfaces : List Device) (nic : Nic) : Option Device :=
  interfaces.find? fun d => d.managed ∧ d.id = ⟨nic.id, nic.vm⟩

/-- The devices that a class selects: the managed disks that are bootable, in the order of the
devices; the first managed CD-ROM; the managed interfaces of plugged NICs, in the order of the
NICs. -/
def selectedDevices (diskDevices cdroms interfaces : List Device) (disks : List Disk)
    (nics : List Nic) : BootClass → List Device
  | .disk => diskDevices.filter fun d =>
      d.managed ∧ ∃ disk ∈ disks, disk.id = d.id.device ∧ disk.attachment.boot
  | .cdrom => (cdroms.find? (·.managed)).toList
  | .network => (nics.filter (·.plugged)).filterMap (interfaceOf? interfaces)

/-- The devices that some classes select, one class after the other. -/
def sequenceDevices (classes : List BootClass) (diskDevices cdroms interfaces : List Device)
    (disks : List Disk) (nics : List Nic) : List Device :=
  classes.flatMap (selectedDevices diskDevices cdroms interfaces disks nics)

/-! ### The identities of the selected devices -/

lemma of_interfaceOf? {nic : Nic} {d : Device} (h : interfaceOf? interfaces nic = some d) :
    d ∈ interfaces ∧ d.managed ∧ d.id = ⟨nic.id, nic.vm⟩ := by
  have hfound := List.find?_some h
  exact ⟨List.mem_of_find?_eq_some h, of_decide_eq_true hfound⟩

lemma map_id_interfaceOf? (interfaces : List Device) (nic : Nic) :
    (interfaceOf? interfaces nic).map (·.id) =
      if (⟨nic.id, nic.vm⟩ : DeviceId) ∈ managed interfaces then some ⟨nic.id, nic.vm⟩
      else none := by
  cases h : interfaceOf? interfaces nic with
  | none =>
    rw [if_neg, Option.map_none]
    rw [mem_managed]
    rintro ⟨d, hd, hmanaged, hid⟩
    have hnone := List.find?_eq_none.mp h d hd
    simp [hmanaged, hid] at hnone
  | some d =>
    obtain ⟨hd, hmanaged, hid⟩ := of_interfaceOf? h
    rw [if_pos (mem_managed.mpr ⟨d, hd, hmanaged, hid⟩), Option.map_some, hid]

lemma map_id_selectedDevices (c : BootClass) :
    (selectedDevices diskDevices cdroms interfaces disks nics c).map (·.id) =
      selected (managed diskDevices) (managed cdroms) (managed interfaces) disks nics c := by
  cases c with
  | disk =>
    rw [selectedDevices, selected, managed, List.filter_map, List.filter_filter]
    refine congrArg _ (List.filter_congr fun d _ => ?_)
    rw [Bool.eq_iff_iff]
    simp [isBootable, and_comm]
  | cdrom =>
    rw [selectedDevices, selected, managed, List.head?_map, List.head?_filter]
    cases cdroms.find? (·.managed) <;> rfl
  | network =>
    rw [selectedDevices, selected, List.map_filterMap, List.filter_map]
    simp only [map_id_interfaceOf?]
    induction nics.filter (·.plugged) with
    | nil => rfl
    | cons nic rest ih =>
      by_cases h : (⟨nic.id, nic.vm⟩ : DeviceId) ∈ managed interfaces <;> simp [h, ih]

lemma map_id_sequenceDevices :
    (sequenceDevices classes diskDevices cdroms interfaces disks nics).map (·.id) =
      chosen classes diskDevices cdroms interfaces disks nics := by
  rw [sequenceDevices, List.map_flatMap, chosen]
  simp only [map_id_selectedDevices]

/-! ### The positions of the devices -/

section

variable (hids : ((diskDevices ++ cdroms ++ interfaces).map (·.id)).Nodup)

include hids

lemma nodup_managedIds : (managedIds diskDevices cdroms interfaces).Nodup := by
  rw [managedIds_eq]
  exact hids.sublist (List.filter_sublist.map _)

/-- A device that shares its identity with a managed one is managed. -/
lemma id_mem_managedIds {d : Device} (hd : d ∈ diskDevices ++ cdroms ++ interfaces) :
    d.id ∈ managedIds diskDevices cdroms interfaces ↔ d.managed := by
  rw [managedIds_eq, mem_managed]
  constructor
  · rintro ⟨e, he, hmanaged, hid⟩
    rwa [← List.inj_on_of_nodup_map hids he hd hid]
  · exact fun hmanaged => ⟨d, hd, hmanaged, rfl⟩

/-- A managed device that no class selects is not booted from. -/
lemma position_of_notMem_sequenceDevices {d : Device}
    (hd : d ∈ diskDevices ++ cdroms ++ interfaces) (hmanaged : d.managed)
    (hnot : d ∉ sequenceDevices classes diskDevices cdroms interfaces disks nics) :
    (compute classes diskDevices cdroms interfaces disks nics).position d = 0 := by
  by_contra hposition
  have hplace := getElem?_chosen
    (lookup_position ((id_mem_managedIds hids hd).mpr hmanaged)) hposition
  rw [← map_id_sequenceDevices] at hplace
  obtain ⟨e, he, hid⟩ := List.mem_map.mp (List.mem_of_getElem? hplace)
  -- A selected device is one of the devices, so it is told by its identity.
  have hmem : e ∈ diskDevices ++ cdroms ++ interfaces := by
    obtain ⟨c, -, hc⟩ := List.mem_flatMap.mp he
    simp only [List.mem_append]
    cases c with
    | disk => exact .inl (.inl (List.mem_of_mem_filter hc))
    | cdrom => exact .inl (.inr (List.mem_of_find?_eq_some (Option.mem_toList.mp hc)))
    | network =>
      obtain ⟨nic, -, hnic⟩ := List.mem_filterMap.mp hc
      exact .inr (of_interfaceOf? hnic).1
  exact hnot (List.inj_on_of_nodup_map hids hmem hd hid ▸ he)

/-- The selected devices have the positions from 1 on. -/
lemma map_position_sequenceDevices (hclasses : classes.Nodup) (hnics : (nics.map (·.id)).Nodup) :
    (sequenceDevices classes diskDevices cdroms interfaces disks nics).map
        (compute classes diskDevices cdroms interfaces disks nics).position =
      List.range' 1 (sequenceDevices classes diskDevices cdroms interfaces disks nics).length := by
  have hnodup : (chosen classes diskDevices cdroms interfaces disks nics).Nodup :=
    nodup_chosen hclasses (nodup_managedIds hids) hnics
  refine List.ext_getElem (by simp) fun i hi hi' => ?_
  rw [List.length_map] at hi
  have hplace : (chosen classes diskDevices cdroms interfaces disks nics)[i]? =
      some (sequenceDevices classes diskDevices cdroms interfaces disks nics)[i].id := by
    rw [← map_id_sequenceDevices, List.getElem?_map, List.getElem?_eq_getElem hi, Option.map_some]
  rw [List.getElem_map, position_of_getElem?_chosen hnodup hplace, List.getElem_range']
  omega

end

/-- The order numbers the devices that the classes select, and no others. -/
structure Follows (order : BootOrder) (classes : List BootClass)
    (diskDevices cdroms interfaces : List Device) (disks : List Disk) (nics : List Nic) :
    Prop where
  /-- The selected devices have the positions from 1 on, each once. -/
  numbered :
    (sequenceDevices classes diskDevices cdroms interfaces disks nics).map order.position =
      List.range' 1 (sequenceDevices classes diskDevices cdroms interfaces disks nics).length
  /-- All positions of a class come before those of a later class. -/
  between : classes.Pairwise fun c c' =>
    ∀ d ∈ selectedDevices diskDevices cdroms interfaces disks nics c,
      ∀ e ∈ selectedDevices diskDevices cdroms interfaces disks nics c',
        order.position d < order.position e
  /-- Within a class the positions keep the order of the devices. -/
  ordered : ∀ c ∈ classes,
    (selectedDevices diskDevices cdroms interfaces disks nics c).Pairwise fun d e =>
      order.position d < order.position e
  unselected : ∀ d ∈ diskDevices ++ cdroms ++ interfaces, d.managed →
    (∀ c ∈ classes, d ∉ selectedDevices diskDevices cdroms interfaces disks nics c) →
      order.position d = 0
  unmanaged : ∀ d ∈ diskDevices ++ cdroms ++ interfaces, d.managed = false →
    order.position d = d.bootOrder.toNat

/-- **The boot order follows the boot sequence** if it has no class twice, and if devices and NICs
have identities of their own; and whatever the classes and identities, no two identities have one
position other than zero. -/
theorem follows_compute (classes : List BootClass) (diskDevices cdroms interfaces : List Device)
    (disks : List Disk) (nics : List Nic) :
    (classes.Nodup → ((diskDevices ++ cdroms ++ interfaces).map (·.id)).Nodup →
      (nics.map (·.id)).Nodup →
      (compute classes diskDevices cdroms interfaces disks nics).Follows classes diskDevices
        cdroms interfaces disks nics) ∧
    ∀ (id id' : DeviceId) (position : Nat),
      (compute classes diskDevices cdroms interfaces disks nics).positions.lookup id =
        some position →
      (compute classes diskDevices cdroms interfaces disks nics).positions.lookup id' =
        some position → position ≠ 0 → id = id' := by
  constructor
  · intro hdistinct hids hnics
    have hnumbered : (sequenceDevices classes diskDevices cdroms interfaces disks nics).map
        (compute classes diskDevices cdroms interfaces disks nics).position = _ :=
      map_position_sequenceDevices hids hdistinct hnics
    have hsorted : (sequenceDevices classes diskDevices cdroms interfaces disks nics).Pairwise
        fun d e => (compute classes diskDevices cdroms interfaces disks nics).position d <
          (compute classes diskDevices cdroms interfaces disks nics).position e := by
      rw [← List.pairwise_map, hnumbered]
      exact List.pairwise_lt_range'
    obtain ⟨hordered, hclasses⟩ := List.pairwise_flatMap.mp hsorted
    refine ⟨hnumbered, hclasses, hordered, fun d hd hmanaged hnot => ?_, fun d hd hunmanaged => ?_⟩
    · refine position_of_notMem_sequenceDevices hids hd hmanaged fun hmem => ?_
      obtain ⟨c, hc, hmem⟩ := List.mem_flatMap.mp hmem
      exact hnot c hc hmem
    · refine position_of_notMem fun hmem => ?_
      exact Bool.false_ne_true (hunmanaged.symm.trans ((id_mem_managedIds hids hd).mp hmem))
  · intro id id' position h h' hposition
    have hplace := getElem?_chosen h hposition
    rw [getElem?_chosen h' hposition] at hplace
    exact (Option.some.inj hplace).symm

/-- NICs first, in their own order, then the bootable disk, then the first CD-ROM that is managed;
the unmanaged one keeps its position. -/
theorem follows_compute_networkFirst :
    let device (n : Nat) (type : DeviceType) (subtype : String) : Device :=
      .plain ⟨⟨n⟩, default⟩ type subtype
    let disk (n : Nat) (isBoot : Bool) : Disk :=
      ⟨⟨n⟩, "", false, false, false, none, ⟨.virtio, isBoot, false⟩, .lun ⟨"lun"⟩⟩
    let nic (n : Nat) (isPlugged : Bool) : Nic :=
      ⟨⟨n⟩, default, "", "", true, isPlugged, none, none, none⟩
    let classes : List BootClass := [.network, .disk, .cdrom]
    let disks := [device 1 .disk "disk", device 2 .disk "disk"]
    let unmanaged := { device 3 .disk "cdrom" with managed := false, bootOrder := 9 }
    let cdroms := [unmanaged, device 4 .disk "cdrom"]
    let interfaces := [5, 6, 8].map (device · .interface "bridge")
    let nics := [nic 6 true, nic 7 true, nic 8 false, nic 5 true]
    let order := compute classes disks cdroms interfaces [disk 1 false, disk 2 true] nics
    order.Follows classes disks cdroms interfaces [disk 1 false, disk 2 true] nics ∧
      interfaces.map order.position = [2, 1, 0] ∧ disks.map order.position = [0, 3] ∧
      cdroms.map order.position = [9, 4] :=
  ⟨(follows_compute _ _ _ _ _ _).1 (by decide) (by decide +kernel) (by decide +kernel),
    by decide +kernel, by decide +kernel, by decide +kernel⟩

end VmDescriptor.BootOrder
