import VmDescriptor.Proofs.Descriptor.BootPositions

/-!
The boot positions of a machine with managed devices only.

The devices that the boot sequence selects are numbered without gaps, and they are described with
their numbers, but for one: the sequence selects the first CD-ROM, also if it carries a payload,
and payload CD-ROMs are described without a position.
-/

namespace VmDescriptor.Fixture

open Descriptor RunOnce Text Xml

/-- The machine's devices at a start: those stored, and the payload of a run in place of stored
ones. -/
def ownDevices (f : Fixture) : List Device :=
  withPayload (runPayload? f.vm f.payload) (f.inventory.devicesOf f.vm.id)

/-- The machine has managed devices only, and they, its disks and its NICs have identities of
their own. -/
structure AllManaged (f : Fixture) : Prop where
  managed : ∀ d ∈ f.ownDevices, d.managed
  machine : ∀ d ∈ f.ownDevices, d.id.vm = f.vm.id
  devices : (f.ownDevices.map (·.id)).Nodup
  disks : (f.vm.disks.map (·.id)).Nodup
  nics : (f.vm.nics.map (·.id)).Nodup

/-- The CD-ROMs that the machine is started with. -/
def cdroms (f : Fixture) (fresh : FreshIds) : List Device :=
  (f.startDevices fresh).filter (DeviceClasses.isDiskOf "cdrom")

/-- The CD-ROM that is selected by the boot sequence but is described without a position. -/
def lostCdrom? (f : Fixture) (fresh : FreshIds) : Option Device :=
  if .cdrom ∈ f.vm.bootSequence.classes then (f.cdroms fresh).head?.filter Device.isPayload
  else none

/-- The position that is computed but not described. -/
def lostPosition? (f : Fixture) (fresh : FreshIds) (config : EngineConfig) : Option Nat :=
  (f.lostCdrom? fresh).map (f.position fresh config)

/-- The identities of the devices selected by the boot sequence, in order. -/
def chosenIds (f : Fixture) (fresh : FreshIds) (config : EngineConfig) : List DeviceId :=
  BootOrder.chosen f.vm.bootSequence.classes (f.classes fresh config).disks
    (f.classes fresh config).cdroms ((f.classes fresh config).interfaces.map (·.device))
    f.vm.disks f.vm.nics

variable {f : Fixture} {fresh : FreshIds} {config : EngineConfig} {root : Node}

lemma of_lostCdrom? {d : Device} (h : f.lostCdrom? fresh = some d) :
    .cdrom ∈ f.vm.bootSequence.classes ∧ (f.cdroms fresh).head? = some d ∧ d.isPayload := by
  unfold lostCdrom? at h
  split at h
  next hsequence => exact ⟨hsequence, Option.filter_eq_some_iff.mp h⟩
  next => cases h

/-! ### Managed devices -/

lemma cdroms_classes (f : Fixture) (fresh : FreshIds) (config : EngineConfig) :
    (f.classes fresh config).cdroms = f.cdroms fresh :=
  DeviceClasses.cdroms_ofDevices _ _

lemma disks_subset : (f.classes fresh config).disks ⊆ f.bootable fresh config :=
  fun _ hd => List.mem_append_left _ (List.mem_append_left _ hd)

lemma cdroms_subset (config : EngineConfig) : f.cdroms fresh ⊆ f.bootable fresh config := by
  rw [← cdroms_classes f fresh config]
  exact fun _ hd => List.mem_append_left _ (List.mem_append_right _ hd)

lemma interfaces_subset :
    (f.classes fresh config).interfaces.map (·.device) ⊆ f.bootable fresh config :=
  fun _ hd => List.mem_append_right _ hd

lemma mem_ownDevices_of_mem_bootable {d : Device} (hd : d ∈ f.bootable fresh config) :
    d ∈ f.ownDevices :=
  (filter_devices_sublist f.payload _).subset (mem_started_of_mem_bootable hd)

namespace AllManaged

variable (hf : f.AllManaged)
include hf

lemma pairwise_started (fresh : FreshIds) : (f.started fresh).Pairwise fun d e => d.id ≠ e.id :=
  (List.pairwise_map.mp hf.devices).sublist (filter_devices_sublist f.payload _)

lemma nodup_bootable (fresh : FreshIds) (config : EngineConfig) :
    ((f.bootable fresh config).map (·.id)).Nodup := by
  have hsymm : Std.Symm fun d e : Device => d.id ≠ e.id := ⟨fun _ _ => Ne.symm⟩
  exact List.pairwise_map.mpr (pairwise_bootable (hf.pairwise_started fresh))

lemma nodup_booted (fresh : FreshIds) (config : EngineConfig) :
    ((f.booted fresh config).map (·.id)).Nodup := by
  have hsymm : Std.Symm fun d e : Device => d.id ≠ e.id := ⟨fun _ _ => Ne.symm⟩
  exact List.pairwise_map.mpr (pairwise_booted_of (hf.pairwise_started fresh) id hf.disks)

/-- An identity tells a device that may be booted from. -/
lemma eq_of_id_eq {d e : Device} (hd : d ∈ f.bootable fresh config)
    (he : e ∈ f.bootable fresh config) (h : d.id = e.id) : d = e :=
  List.inj_on_of_nodup_map (hf.nodup_bootable fresh config) hd he h

lemma managed_eq {ds : List Device} (hds : ds ⊆ f.bootable fresh config) :
    BootOrder.managed ds = ds.map (·.id) := by
  rw [BootOrder.managed, List.filter_eq_self.mpr fun d hd =>
    hf.managed d (mem_ownDevices_of_mem_bootable (hds hd))]

lemma managedIds_eq (fresh : FreshIds) (config : EngineConfig) :
    BootOrder.managedIds (f.classes fresh config).disks (f.classes fresh config).cdroms
        ((f.classes fresh config).interfaces.map (·.device)) =
      (f.bootable fresh config).map (·.id) := by
  rw [BootOrder.managedIds_eq]
  exact hf.managed_eq (List.Subset.refl _)

lemma nodup_managedIds (fresh : FreshIds) (config : EngineConfig) :
    (BootOrder.managedIds (f.classes fresh config).disks (f.classes fresh config).cdroms
      ((f.classes fresh config).interfaces.map (·.device))).Nodup := by
  rw [hf.managedIds_eq]
  exact hf.nodup_bootable fresh config

lemma managed_cdroms : BootOrder.managed (f.classes fresh config).cdroms =
    (f.cdroms fresh).map (·.id) := by
  rw [cdroms_classes, hf.managed_eq (cdroms_subset config)]

lemma nodup_chosenIds (fresh : FreshIds) (config : EngineConfig) :
    (f.chosenIds fresh config).Nodup :=
  BootOrder.nodup_chosen f.vm.bootSequence.distinct (hf.nodup_managedIds fresh config) hf.nics

lemma mem_managedIds {d : Device} (hd : d ∈ f.bootable fresh config) :
    d.id ∈ BootOrder.managedIds (f.classes fresh config).disks (f.classes fresh config).cdroms
      ((f.classes fresh config).interfaces.map (·.device)) := by
  rw [hf.managedIds_eq]
  exact List.mem_map_of_mem hd

/-- A device has a position other than zero just when it is selected. -/
lemma position_ne_zero_iff {d : Device} (hd : d ∈ f.bootable fresh config) :
    f.position fresh config d ≠ 0 ↔ d.id ∈ f.chosenIds fresh config := by
  constructor
  · intro hposition
    exact List.mem_of_getElem? (BootOrder.getElem?_chosen
      (BootOrder.lookup_position (hf.mem_managedIds hd)) hposition)
  · intro hmem
    obtain ⟨i, hi⟩ := List.mem_iff_getElem?.mp hmem
    have hposition : f.position fresh config d = i + 1 :=
      BootOrder.position_of_getElem?_chosen (hf.nodup_chosenIds fresh config) hi
    omega

/-! ### Selected devices -/

/-- A CD-ROM is selected just when the sequence has CD-ROMs and it is the first one. -/
lemma mem_chosenIds_of_cdrom (config : EngineConfig) {d : Device} (hd : d ∈ f.cdroms fresh) :
    d.id ∈ f.chosenIds fresh config ↔
      .cdrom ∈ f.vm.bootSequence.classes ∧ (f.cdroms fresh).head? = some d := by
  have hcandidate : d.id ∈ BootOrder.candidates (f.classes fresh config).disks
      (f.classes fresh config).cdroms ((f.classes fresh config).interfaces.map (·.device))
      .cdrom := by
    rw [BootOrder.candidates, hf.managed_cdroms]
    exact List.mem_map_of_mem hd
  have hhead : d.id ∈ (BootOrder.managed (f.classes fresh config).cdroms).head?.toList ↔
      (f.cdroms fresh).head? = some d := by
    rw [hf.managed_cdroms, List.head?_map, Option.mem_toList, Option.map_eq_some_iff]
    constructor
    · rintro ⟨e, he, hid⟩
      rw [he, hf.eq_of_id_eq (cdroms_subset config (List.mem_of_head? he))
        (cdroms_subset config hd) hid]
    · exact fun hhead => ⟨d, hhead, rfl⟩
  rw [← hhead]
  constructor
  · intro hmem
    obtain ⟨c, hc, hid⟩ := List.mem_flatMap.mp hmem
    by_cases hcdrom : c = .cdrom
    · subst hcdrom
      exact ⟨hc, hid⟩
    · have hdisjoint := BootOrder.disjoint_candidates (hf.nodup_managedIds fresh config) hcdrom
      exact (hdisjoint (BootOrder.selected_subset_candidates c hid) hcandidate).elim
  · rintro ⟨hc, hid⟩
    exact List.mem_flatMap.mpr ⟨.cdrom, hc, hid⟩

/-- A selected disk is described. -/
lemma exists_booted_of_disk {id : DeviceId}
    (h : id ∈ (BootOrder.managed (f.classes fresh config).disks).filter
      (BootOrder.isBootable f.vm.disks)) :
    ∃ d ∈ f.booted fresh config, d.id = id := by
  obtain ⟨hmem, hbootable⟩ := List.mem_filter.mp h
  rw [hf.managed_eq disks_subset] at hmem
  obtain ⟨device, hdevice, rfl⟩ := List.mem_map.mp hmem
  obtain ⟨disk, hdisk, hid⟩ := List.any_eq_true.mp hbootable
  have hid : device.id = ⟨disk.id, f.vm.id⟩ := by
    have hmachine := hf.machine _ (mem_ownDevices_of_mem_bootable (disks_subset hdevice))
    obtain ⟨hid, -⟩ := of_decide_eq_true hid
    rw [hid, ← hmachine]
  obtain ⟨found, hfound⟩ := exists_mem_pluggedDisks
    ((sortedDisks_perm f.vm.disks).mem_iff.mpr hdisk) ⟨device, hdevice, hid⟩
  obtain ⟨-, hmem, hfoundId⟩ := mem_pluggedDisks hfound
  have hmanaged := hf.managed _ (mem_ownDevices_of_mem_bootable (disks_subset hmem))
  refine ⟨found, ?_, hfoundId.trans hid.symm⟩
  simp only [booted, List.mem_append, map_describedDisks]
  exact .inr (List.mem_map.mpr ⟨_, List.mem_filter.mpr ⟨hfound, hmanaged⟩, rfl⟩)

/-- A selected network interface is described. -/
lemma exists_booted_of_network {id : DeviceId}
    (h : id ∈ ((f.vm.nics.filter (·.plugged)).map fun nic => DeviceId.mk nic.id nic.vm).filter
      (· ∈ BootOrder.managed ((f.classes fresh config).interfaces.map (·.device)))) :
    ∃ d ∈ f.booted fresh config, d.id = id := by
  obtain ⟨hmem, hinterface⟩ := List.mem_filter.mp h
  obtain ⟨nic, hnic, rfl⟩ := List.mem_map.mp hmem
  rw [decide_eq_true_iff, hf.managed_eq interfaces_subset] at hinterface
  obtain ⟨d, hd, hid⟩ := List.mem_map.mp hinterface
  have hfound : (f.vm.nicOf? d.id).isSome :=
    List.find?_isSome.mpr ⟨nic, List.mem_of_mem_filter hnic, by simp [hid]⟩
  refine ⟨d, ?_, hid⟩
  simp only [booted, List.mem_append]
  exact .inl (.inl (List.mem_filter.mpr ⟨hd, hfound⟩))

/-- A selected device is described with its position, or it is a CD-ROM with a payload. -/
lemma exists_booted_or_lost {id : DeviceId} (h : id ∈ f.chosenIds fresh config) :
    (∃ d ∈ f.booted fresh config, d.id = id) ∨ ∃ d, f.lostCdrom? fresh = some d ∧ d.id = id := by
  obtain ⟨c, hc, hid⟩ := List.mem_flatMap.mp h
  cases c with
  | disk => exact .inl (hf.exists_booted_of_disk hid)
  | network => exact .inl (hf.exists_booted_of_network hid)
  | cdrom =>
    rw [BootOrder.selected, hf.managed_cdroms, List.head?_map, Option.mem_toList] at hid
    obtain ⟨d, hd, rfl⟩ := Option.map_eq_some_iff.mp hid
    cases hpayload : d.isPayload with
    | true =>
      refine .inr ⟨d, ?_, rfl⟩
      rw [lostCdrom?, if_pos hc, hd]
      simp [hpayload]
    | false =>
      have huser : userDevice? (f.classes fresh config).cdroms = some d := by
        rw [cdroms_classes]
        obtain ⟨rest, hrest⟩ := List.head?_eq_some_iff.mp hd
        rw [hrest, userDevice?, List.find?_cons_of_pos (by simp [hpayload])]
      refine .inl ⟨d, ?_, rfl⟩
      simp only [booted, huser, List.mem_append]
      exact .inl (.inr (List.mem_singleton_self d))

/-- A CD-ROM with a payload has no position in the descriptor. -/
lemma id_ne_of_lost {c d : Device} (hc : f.lostCdrom? fresh = some c)
    (hd : d ∈ f.booted fresh config) : d.id ≠ c.id := by
  intro hid
  obtain ⟨-, hhead, hpayload⟩ := of_lostCdrom? hc
  have hcdrom := List.mem_of_head? hhead
  obtain rfl := hf.eq_of_id_eq (mem_bootable_of_mem_booted hd) (cdroms_subset config hcdrom) hid
  rw [← cdroms_classes f fresh config] at hcdrom
  obtain ⟨-, htype, hsubtype⟩ := mem_cdroms_classes hcdrom
  simp only [booted, List.mem_append] at hd
  rcases hd with (hd | hd) | hd
  · have hinterface := (mem_interfaces_classes (List.mem_of_mem_filter hd)).2
    exact absurd (htype.symm.trans hinterface) (by decide)
  · have huser := List.find?_some (Option.mem_toList.mp hd)
    simp [hpayload] at huser
  · obtain ⟨x, hx, rfl⟩ := List.mem_map.mp hd
    have hdisk := subtype_of_mem_disks (mem_disks_of_mem_describedDisks hx)
    exact absurd (hdisk.symm.trans hsubtype) (by decide)

/-- A position from one on is described just if it is not lost. -/
lemma exists_booted_iff {i : Nat} (hi : i ∈ List.range' 1 (f.chosenIds fresh config).length) :
    (∃ d ∈ f.booted fresh config, (f.chosenIds fresh config)[i - 1]? = some d.id) ↔
      f.lostPosition? fresh config ≠ some i := by
  rw [List.mem_range'_1] at hi
  constructor
  · rintro ⟨d, hd, hplace⟩ hlost
    obtain ⟨c, hc, hposition⟩ := Option.map_eq_some_iff.mp hlost
    have hcdrom : c ∈ f.bootable fresh config :=
      cdroms_subset config (List.mem_of_head? (of_lostCdrom? hc).2.1)
    have hcplace : (f.chosenIds fresh config)[f.position fresh config c - 1]? = some c.id :=
      BootOrder.getElem?_chosen (BootOrder.lookup_position (hf.mem_managedIds hcdrom)) (by omega)
    rw [hposition, hplace] at hcplace
    exact hf.id_ne_of_lost hc hd (Option.some.inj hcplace)
  · intro hlost
    have hplace := List.getElem?_eq_getElem (l := f.chosenIds fresh config) (i := i - 1) (by omega)
    rcases hf.exists_booted_or_lost (List.mem_of_getElem? hplace) with ⟨d, hd, hid⟩ | ⟨c, hc, hid⟩
    · exact ⟨d, hd, by rw [hplace, hid]⟩
    · have hposition : f.position fresh config c = i - 1 + 1 :=
        BootOrder.position_of_getElem?_chosen (hf.nodup_chosenIds fresh config)
          (by rw [hid]; exact hplace)
      refine absurd ?_ hlost
      rw [lostPosition?, hc, Option.map_some, hposition]
      congr 1
      omega

/-! ### The three parts of the numbering -/

/-- The positions described are those that are given out, but for the one lost. -/
lemma perm_bootOrders (hroot : f.root fresh config = .ok root) :
    (bootOrders root).Perm (((List.range' 1 (f.chosenIds fresh config).length).filter
      (f.lostPosition? fresh config ≠ some ·)).map decimal) := by
  have hperm := BootOrder.perm_positions (hf.nodup_booted fresh config)
    (fun d hd => hf.mem_managedIds (mem_bootable_of_mem_booted hd))
    (hf.nodup_chosenIds fresh config)
  rw [bootOrders_eq hroot, flatMap_written]
  refine (hperm.map decimal).trans (List.Perm.of_eq (congrArg _ (List.filter_congr ?_)))
  intro i hi
  exact decide_eq_decide.mpr (hf.exists_booted_iff hi)

/-- The position lost is one of those that are given out. -/
lemma lostPosition_mem_range {i : Nat} (hlost : f.lostPosition? fresh config = some i) :
    i ∈ List.range' 1 (f.chosenIds fresh config).length := by
  obtain ⟨c, hc, rfl⟩ := Option.map_eq_some_iff.mp hlost
  obtain ⟨hsequence, hhead, -⟩ := of_lostCdrom? hc
  have hmem : c.id ∈ f.chosenIds fresh config :=
    (hf.mem_chosenIds_of_cdrom config (List.mem_of_head? hhead)).mpr ⟨hsequence, hhead⟩
  obtain ⟨i, hi⟩ := List.mem_iff_getElem?.mp hmem
  have hposition : f.position fresh config c = i + 1 :=
    BootOrder.position_of_getElem?_chosen (hf.nodup_chosenIds fresh config) hi
  have hlt := (List.getElem?_eq_some_iff.mp hi).1
  rw [List.mem_range'_1]
  omega

/-- The user's CD-ROM is described with a position just when it is selected. -/
lemma bootOrders_userCdrom_ne_nil_iff {d : Device} (hd : d ∈ f.cdroms fresh) (index : Nat) :
    bootOrders (userCdrom f.vm (f.classes fresh config).indices.cd index (some d)
        (bootOrder f.vm (f.classes fresh config))) ≠ [] ↔
      .cdrom ∈ f.vm.bootSequence.classes ∧ (f.cdroms fresh).head? = some d := by
  rw [← hf.mem_chosenIds_of_cdrom config hd,
    ← hf.position_ne_zero_iff (cdroms_subset config hd), bootOrders, boot_userCdrom,
    Option.toList_some, List.flatMap_singleton, filterMap_bootNodes]
  unfold written position
  split <;> simp_all

end AllManaged

/-- A user's CD-ROM is among the disks of the descriptor. -/
lemma userCdrom_mem_disks {d : Device} (hroot : f.root fresh config = .ok root)
    (hd : userDevice? (f.cdroms fresh) = some d) :
    userCdrom f.vm (f.classes fresh config).indices.cd
        (f.classes fresh config).indices.cd.cdromIndex (some d)
        (bootOrder f.vm (f.classes fresh config)) ∈ elementsNamed "disk" [root] := by
  obtain ⟨diskNodes, -, hdisks⟩ := exists_diskNodes hroot
  have huser : userDevice? (f.classes fresh config).cdroms = some d := by rw [cdroms_classes, hd]
  have hhas : hasUserCdrom f.vm (f.classes fresh config).cdroms = true := by
    simp [hasUserCdrom, huser]
  rw [hdisks, removableNodes_eq, hhas, huser]
  simp

/-- **Boot positions have one gap at most**: with managed devices the positions in a descriptor
are 1 to some number, each once, without that of a payload CD-ROM that comes before the user's.
The user's CD-ROM has a position if it is the first one and the sequence has CD-ROMs. -/
theorem bootOrders_perm_range (hf : f.AllManaged) {text : String}
    (h : (f.build fresh config).result = .ok text) :
    ∃ root n, f.root fresh config = .ok root ∧ root.document = .ok text ∧
      (bootOrders root).Perm (((List.range' 1 n).filter
        (f.lostPosition? fresh config ≠ some ·)).map decimal) ∧
      (∀ i, f.lostPosition? fresh config = some i → i ∈ List.range' 1 n) ∧
      ∀ d, userDevice? (f.cdroms fresh) = some d →
        ∃ cdrom ∈ elementsNamed "disk" [root],
          cdrom = userCdrom f.vm (f.classes fresh config).indices.cd
            (f.classes fresh config).indices.cd.cdromIndex (some d)
            (bootOrder f.vm (f.classes fresh config)) ∧
          (bootOrders cdrom ≠ [] ↔ .cdrom ∈ f.vm.bootSequence.classes ∧
            (f.cdroms fresh).head? = some d) := by
  obtain ⟨root, hroot, hdocument⟩ := Request.build_ok_iff.mp h
  have hroot : f.root fresh config = .ok root := hroot
  refine ⟨root, (f.chosenIds fresh config).length, hroot, hdocument, hf.perm_bootOrders hroot,
    fun i => hf.lostPosition_mem_range, fun d hd => ?_⟩
  have hcdrom : d ∈ f.cdroms fresh := List.mem_of_find?_eq_some hd
  exact ⟨_, userCdrom_mem_disks hroot hd, rfl, hf.bootOrders_userCdrom_ne_nil_iff hcdrom _⟩

/-- A machine that boots from its CD-ROM and then from its disk, with a second CD-ROM that carries
a payload. -/
def withPayloadCdrom (payloadFirst : Bool) : Fixture :=
  let payload := { Device.plain ⟨⟨2⟩, default⟩ .disk "cdrom" with
    parameters := .ofList [(Device.payloadKey, .null)] }
  let user := Device.plain ⟨⟨3⟩, default⟩ .disk "cdrom"
  plain { plainMachine none [plainDisk ⟨1⟩ .virtio] [] with
      bootSequence := ⟨[.cdrom, .disk], by decide, by decide⟩ }
    ((if payloadFirst then [payload, user] else [user, payload]) ++
      [.plain ⟨⟨1⟩, default⟩ .disk "disk"])

/-- Behind the user's CD-ROM the payload is not selected, and there is no gap. -/
theorem bootOrders_withPayloadCdrom :
    (withPayloadCdrom false).AllManaged ∧
      ∃ text root n,
        ((withPayloadCdrom false).build (.constant default) .empty).result = .ok text ∧
          (withPayloadCdrom false).root (.constant default) .empty = .ok root ∧
          root.document = .ok text ∧
          (bootOrders root).Perm ((List.range' 1 n).map decimal) := by
  have hmanaged : (withPayloadCdrom false).AllManaged :=
    ⟨by decide, by decide, by decide, by decide, by decide⟩
  obtain ⟨text, h⟩ := Program.exists_ok
    (r := ((withPayloadCdrom false).build (.constant default) .empty).result) (by decide +kernel)
  obtain ⟨root, n, hroot, hdocument, hperm, -⟩ := bootOrders_perm_range hmanaged h
  have hlost : (withPayloadCdrom false).lostPosition? (.constant default) .empty = none := by
    decide +kernel
  have hall (i : Nat) : decide (none ≠ some i) = true := rfl
  simp only [hlost, hall, List.filter_true] at hperm
  exact ⟨hmanaged, text, root, n, h, hroot, hdocument, hperm⟩

/-- Before it the payload takes the position that the user's CD-ROM would have. -/
theorem bootOrders_withPayloadCdrom_gap :
    (withPayloadCdrom true).AllManaged ∧
      ∃ text root,
        ((withPayloadCdrom true).build (.constant default) .empty).result = .ok text ∧
          (withPayloadCdrom true).root (.constant default) .empty = .ok root ∧
          root.document = .ok text ∧
          ¬ ∃ n, (bootOrders root).Perm ((List.range' 1 n).map decimal) := by
  have horders : ((withPayloadCdrom true).root (.constant default) .empty).toOption.map
      bootOrders = some ["2"] := by decide +kernel
  obtain ⟨text, h⟩ := Program.exists_ok
    (r := ((withPayloadCdrom true).build (.constant default) .empty).result) (by decide +kernel)
  obtain ⟨root, hroot, hdocument⟩ := Request.build_ok_iff.mp h
  have hroot : (withPayloadCdrom true).root (.constant default) .empty = .ok root := hroot
  rw [hroot] at horders
  refine ⟨⟨by decide, by decide, by decide, by decide, by decide⟩, text, root, h, hroot,
    hdocument, ?_⟩
  rw [Option.some.inj horders]
  rintro ⟨n, hperm⟩
  obtain rfl : n = 1 := by simpa using hperm.length_eq.symm
  revert hperm
  decide

end VmDescriptor.Fixture
