import Mathlib.Data.List.Flatten
import Mathlib.Data.List.Nodup
import Mathlib.Data.List.Perm.Subperm
import VmDescriptor.BootOrder
import VmDescriptor.Proofs.SortedMap

/-!
Positions in the boot order.

A recomputed position stands for one place in the sequence of selected devices, so it tells the
identity of its device. Every managed device has a recomputed position; no other identity has.
-/

namespace VmDescriptor.BootOrder

variable {classes : List BootClass} {diskDevices cdroms interfaces : List Device}
  {disks : List Disk} {nics : List Nic}

/-- The managed devices of the three classes. -/
def managedIds (diskDevices cdroms interfaces : List Device) : List DeviceId :=
  managed diskDevices ++ managed cdroms ++ managed interfaces

lemma mem_managed {devices : List Device} {id : DeviceId} :
    id ∈ managed devices ↔ ∃ d ∈ devices, d.managed ∧ d.id = id := by
  simp [managed, and_assoc]

lemma managedIds_eq (diskDevices cdroms interfaces : List Device) :
    managedIds diskDevices cdroms interfaces = managed (diskDevices ++ cdroms ++ interfaces) := by
  simp only [managedIds, managed, List.filter_append, List.map_append]

/-! ### The loop and what it selects -/

/-- The devices that a class of the boot sequence selects, in order. -/
def selected (diskIds cdromIds interfaceIds : List DeviceId) (disks : List Disk)
    (nics : List Nic) : BootClass → List DeviceId
  | .disk => diskIds.filter (isBootable disks)
  | .cdrom => cdromIds.head?.toList
  | .network =>
    ((nics.filter (·.plugged)).map fun nic => ⟨nic.id, nic.vm⟩).filter (· ∈ interfaceIds)

/-- A class assigns to the devices that it selects, one after the other. -/
lemma assignClass_eq {σ : Type} (assign : σ → DeviceId → σ)
    (diskIds cdromIds interfaceIds : List DeviceId) (disks : List Disk) (nics : List Nic) (s : σ)
    (c : BootClass) :
    assignClass assign diskIds cdromIds interfaceIds disks nics s c =
      (selected diskIds cdromIds interfaceIds disks nics c).foldl assign s := by
  cases c with
  | disk => exact (List.foldl_filter ..).symm
  | cdrom => cases cdromIds <;> rfl
  | network =>
    rw [selected, List.foldl_filter, List.foldl_map]
    simp [assignClass, assignIf]

/-- Devices get the positions after the last one, in order. -/
lemma foldl_assign (ids : List DeviceId) (n : Numbering) :
    ids.foldl Numbering.assign n =
      ⟨n.last + ids.length, ⟨(ids.mapIdx fun i id => (id, n.last + i + 1)).reverse ++
        n.order.positions⟩⟩ := by
  induction ids generalizing n with
  | nil => rfl
  | cons id rest ih =>
    rw [List.foldl_cons, ih]
    simp [Numbering.assign, set, Nat.add_assoc, Nat.add_comm 1]

/-- The selected devices in the order of their positions. -/
def chosen (classes : List BootClass) (diskDevices cdroms interfaces : List Device)
    (disks : List Disk) (nics : List Nic) : List DeviceId :=
  classes.flatMap
    (selected (managed diskDevices) (managed cdroms) (managed interfaces) disks nics)

/-- The classes of a boot sequence assign to the selected devices. -/
lemma foldl_assignClass {σ : Type} (assign : σ → DeviceId → σ) (s : σ) :
    classes.foldl (assignClass assign (managed diskDevices) (managed cdroms) (managed interfaces)
      disks nics) s =
      (chosen classes diskDevices cdroms interfaces disks nics).foldl assign s := by
  rw [chosen, List.foldl_flatMap]
  exact congrArg (classes.foldl · s) (funext₂ fun s c => assignClass_eq assign _ _ _ _ _ s c)

/-- **The loop numbers what it selects**: each selected device has its place as its position, where
a device that is selected twice keeps the last one, and all other managed devices have zero. -/
theorem positions_compute :
    (compute classes diskDevices cdroms interfaces disks nics).positions =
      ((chosen classes diskDevices cdroms interfaces disks nics).mapIdx
        fun i id => (id, i + 1)).reverse ++
        (managedIds diskDevices cdroms interfaces).map fun id => (id, 0) := by
  simp only [compute, foldl_assignClass, foldl_assign, managedIds, Nat.zero_add]

/-- It makes no difference in which order the disks of the machine are listed. -/
lemma compute_of_perm {disks' : List Disk} (h : disks.Perm disks') :
    compute classes diskDevices cdroms interfaces disks nics =
      compute classes diskDevices cdroms interfaces disks' nics := by
  have hbootable : isBootable disks = isBootable disks' := funext fun _ => h.any_eq
  have hassign (diskIds cdromIds interfaceIds : List DeviceId) :
      assignClass Numbering.assign diskIds cdromIds interfaceIds disks nics =
        assignClass Numbering.assign diskIds cdromIds interfaceIds disks' nics := by
    funext n c
    cases c with
    | disk => simp only [assignClass, hbootable]
    | cdrom => rfl
    | network => rfl
  simp only [compute, hassign]

/-- The devices that the boot sequence selects are managed. -/
lemma selected_subset (c : BootClass) :
    selected (managed diskDevices) (managed cdroms) (managed interfaces) disks nics c ⊆
      managedIds diskDevices cdroms interfaces := by
  intro id hid
  simp only [managedIds, List.mem_append]
  cases c with
  | disk => exact .inl (.inl (List.mem_of_mem_filter hid))
  | cdrom => exact .inl (.inr (List.mem_of_mem_head? (Option.mem_toList.mp hid)))
  | network =>
    have h := (List.mem_filter.mp hid).2
    exact .inr (of_decide_eq_true h)

/-- The identities with a recomputed position are those of the managed devices. -/
theorem lookup_positions_eq_none_iff {id : DeviceId} :
    (compute classes diskDevices cdroms interfaces disks nics).positions.lookup id = none ↔
      id ∉ managedIds diskDevices cdroms interfaces := by
  have hchosen {id : DeviceId}
      (h : id ∈ chosen classes diskDevices cdroms interfaces disks nics) :
      id ∈ managedIds diskDevices cdroms interfaces := by
    obtain ⟨c, -, hc⟩ := List.mem_flatMap.mp h
    exact selected_subset c hc
  rw [positions_compute, lookup_eq_none_iff_notMem, not_iff_not, List.map_append, List.map_map,
    List.mem_append]
  constructor
  · rintro (h | h)
    · obtain ⟨e, he, rfl⟩ := List.mem_map.mp h
      obtain ⟨i, hi, rfl⟩ := List.mem_mapIdx.mp (List.mem_reverse.mp he)
      exact hchosen (List.getElem_mem hi)
    · simpa using h
  · exact fun h => .inr (by simpa using h)

/-- A recomputed position is zero or the place of a selected device. -/
lemma getElem?_chosen {id : DeviceId} {position : Nat}
    (h : (compute classes diskDevices cdroms interfaces disks nics).positions.lookup id =
      some position) (hposition : position ≠ 0) :
    (chosen classes diskDevices cdroms interfaces disks nics)[position - 1]? = some id := by
  rw [positions_compute] at h
  rcases List.mem_append.mp (mem_of_lookup_eq_some h) with h | h
  · obtain ⟨i, hi, heq⟩ := List.mem_mapIdx.mp (List.mem_reverse.mp h)
    cases heq
    exact List.getElem?_eq_getElem hi
  · obtain ⟨_, -, heq⟩ := List.mem_map.mp h
    cases heq
    exact absurd rfl hposition

lemma lookup_position {d : Device} (hd : d.id ∈ managedIds diskDevices cdroms interfaces) :
    (compute classes diskDevices cdroms interfaces disks nics).positions.lookup d.id =
      some ((compute classes diskDevices cdroms interfaces disks nics).position d) := by
  unfold position
  cases hnone : (compute classes diskDevices cdroms interfaces disks
      nics).positions.lookup d.id with
  | none => exact absurd hd (lookup_positions_eq_none_iff.mp hnone)
  | some position => rfl

/-- **Positions are unique**: two managed devices with one position have one identity. -/
theorem position_injective {d e : Device} (hd : d.id ∈ managedIds diskDevices cdroms interfaces)
    (he : e.id ∈ managedIds diskDevices cdroms interfaces)
    (h : (compute classes diskDevices cdroms interfaces disks nics).position d =
      (compute classes diskDevices cdroms interfaces disks nics).position e)
    (hposition : (compute classes diskDevices cdroms interfaces disks nics).position d ≠ 0) :
    d.id = e.id := by
  have hplace := getElem?_chosen (lookup_position hd) hposition
  have hplace' := getElem?_chosen (lookup_position he) (h ▸ hposition)
  rw [h, hplace', Option.some.injEq] at hplace
  exact hplace.symm

/-- A device that shares its identity with no managed one keeps its stored position. -/
theorem position_of_notMem {d : Device} (h : d.id ∉ managedIds diskDevices cdroms interfaces) :
    (compute classes diskDevices cdroms interfaces disks nics).position d =
      d.bootOrder.toNat := by
  rw [position, lookup_positions_eq_none_iff.mpr h]
  rfl

/-! ### Places without gaps -/

/-- The identities from which a class of the boot sequence selects. -/
def candidates (diskDevices cdroms interfaces : List Device) : BootClass → List DeviceId
  | .disk => managed diskDevices
  | .cdrom => managed cdroms
  | .network => managed interfaces

lemma selected_subset_candidates (c : BootClass) :
    selected (managed diskDevices) (managed cdroms) (managed interfaces) disks nics c ⊆
      candidates diskDevices cdroms interfaces c := by
  intro id hid
  cases c with
  | disk => exact List.mem_of_mem_filter hid
  | cdrom => exact List.mem_of_mem_head? (Option.mem_toList.mp hid)
  | network => exact of_decide_eq_true (List.mem_filter.mp hid).2

/-- Devices with identities of their own are selected by one class at most. -/
lemma disjoint_candidates (hids : (managedIds diskDevices cdroms interfaces).Nodup)
    {c c' : BootClass} (hne : c ≠ c') :
    (candidates diskDevices cdroms interfaces c).Disjoint
      (candidates diskDevices cdroms interfaces c') := by
  obtain ⟨hdisksCdroms, -, hinterfaces⟩ := List.nodup_append'.mp hids
  obtain ⟨-, -, hdisks⟩ := List.nodup_append'.mp hdisksCdroms
  have hdisksInterfaces := List.disjoint_of_disjoint_append_left_left hinterfaces
  have hcdromsInterfaces := List.disjoint_of_disjoint_append_left_right hinterfaces
  match c, c', hne with
  | .disk, .cdrom, _ => exact hdisks
  | .cdrom, .disk, _ => exact List.disjoint_symm hdisks
  | .disk, .network, _ => exact hdisksInterfaces
  | .network, .disk, _ => exact List.disjoint_symm hdisksInterfaces
  | .cdrom, .network, _ => exact hcdromsInterfaces
  | .network, .cdrom, _ => exact List.disjoint_symm hcdromsInterfaces

/-- Devices and NICs with identities of their own are selected once at most. -/
lemma nodup_chosen (hdistinct : classes.Nodup)
    (hids : (managedIds diskDevices cdroms interfaces).Nodup) (hnics : (nics.map (·.id)).Nodup) :
    (chosen classes diskDevices cdroms interfaces disks nics).Nodup := by
  refine List.nodup_flatMap.mpr ⟨fun c _ => ?_, ?_⟩
  · cases c with
    | disk =>
      have hdisks : (managed diskDevices).Nodup :=
        (List.nodup_append'.mp (List.nodup_append'.mp hids).1).1
      exact hdisks.filter _
    | cdrom =>
      simp only [selected]
      cases (managed cdroms).head? <;> simp
    | network =>
      refine List.Nodup.filter _ ?_
      have hplugged : ((nics.filter (·.plugged)).map (·.id)).Nodup :=
        hnics.sublist (List.filter_sublist.map _)
      refine List.Nodup.of_map DeviceId.device ?_
      rw [List.map_map]
      exact hplugged
  · refine hdistinct.imp fun {c c'} hne => ?_
    exact List.disjoint_of_subset_left (selected_subset_candidates c)
      (List.disjoint_of_subset_right (selected_subset_candidates c') (disjoint_candidates hids hne))

/-- The place of a selected device is its position. -/
lemma position_of_getElem?_chosen {d : Device} {i : Nat}
    (hnodup : (chosen classes diskDevices cdroms interfaces disks nics).Nodup)
    (h : (chosen classes diskDevices cdroms interfaces disks nics)[i]? = some d.id) :
    (compute classes diskDevices cdroms interfaces disks nics).position d = i + 1 := by
  rw [position, positions_compute, List.lookup_append]
  cases hlookup : ((chosen classes diskDevices cdroms interfaces disks nics).mapIdx
      fun i id => (id, i + 1)).reverse.lookup d.id with
  | none =>
    obtain ⟨hi, hid⟩ := List.getElem?_eq_some_iff.mp h
    have hentry : (d.id, i + 1) ∈ ((chosen classes diskDevices cdroms interfaces disks
        nics).mapIdx fun i id => (id, i + 1)).reverse :=
      List.mem_reverse.mpr (List.mem_mapIdx.mpr ⟨i, hi, by rw [hid]⟩)
    exact absurd (List.mem_map_of_mem hentry) (lookup_eq_none_iff_notMem.mp hlookup)
  | some position =>
    obtain ⟨j, hj, heq⟩ :=
      List.mem_mapIdx.mp (List.mem_reverse.mp (mem_of_lookup_eq_some hlookup))
    obtain ⟨hid, rfl⟩ := Prod.mk.inj heq
    have hplace : j = i :=
      (List.getElem?_inj hj hnodup).mp ((List.getElem?_eq_getElem hj).trans (by rw [hid, h]))
    simp [hplace]

/-- **Places without gaps**: the positions of managed devices are the places of those that are
selected. -/
theorem perm_positions {ds : List Device} (hds : (ds.map (·.id)).Nodup)
    (hmanaged : ∀ d ∈ ds, d.id ∈ managedIds diskDevices cdroms interfaces)
    (hnodup : (chosen classes diskDevices cdroms interfaces disks nics).Nodup) :
    ((ds.map (compute classes diskDevices cdroms interfaces disks nics).position).filter
        (· ≠ 0)).Perm
      ((List.range' 1 (chosen classes diskDevices cdroms interfaces disks nics).length).filter
        fun i => ∃ d ∈ ds,
          (chosen classes diskDevices cdroms interfaces disks nics)[i - 1]? = some d.id) := by
  have hplace {d : Device} (hd : d ∈ ds)
      (hposition : (compute classes diskDevices cdroms interfaces disks nics).position d ≠ 0) :
      (chosen classes diskDevices cdroms interfaces disks nics)[(compute classes diskDevices
        cdroms interfaces disks nics).position d - 1]? = some d.id :=
    getElem?_chosen (lookup_position (hmanaged d hd)) hposition
  have hpositions : ((ds.map (compute classes diskDevices cdroms interfaces disks
      nics).position).filter (· ≠ 0)).Nodup := by
    rw [List.filter_map, List.Nodup, List.pairwise_map]
    refine (List.Pairwise.filter _ (List.pairwise_map.mp hds)).imp_of_mem fun hd he hne heq => ?_
    obtain ⟨hd, hposition⟩ := List.mem_filter.mp hd
    exact hne (position_injective (hmanaged _ hd) (hmanaged _ (List.mem_of_mem_filter he)) heq
      (of_decide_eq_true hposition))
  have hplaces (n : Nat) (p : Nat → Bool) : ((List.range' 1 n).filter p).Nodup :=
    List.Nodup.filter _ (List.nodup_range' 1)
  refine (List.perm_ext_iff_of_nodup hpositions (hplaces _ _)).mpr fun i => ?_
  simp only [List.mem_filter, List.mem_map, List.mem_range'_1, decide_eq_true_iff]
  constructor
  · rintro ⟨⟨d, hd, rfl⟩, hposition⟩
    have hlt := (List.getElem?_eq_some_iff.mp (hplace hd hposition)).1
    exact ⟨⟨by omega, by omega⟩, d, hd, hplace hd hposition⟩
  · rintro ⟨⟨hpos, -⟩, d, hd, hid⟩
    have hposition := position_of_getElem?_chosen hnodup hid
    exact ⟨⟨d, hd, by omega⟩, by omega⟩

end VmDescriptor.BootOrder
