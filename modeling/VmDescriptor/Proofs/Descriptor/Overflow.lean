import VmDescriptor.Proofs.Descriptor.Endings
import VmDescriptor.Proofs.Products

/-!
When a product of a build does not fit its width.

The sizes of a machine are multiplied before anything is looked up. The limits of a disk are
multiplied when the disk is described, so only a build that gets there fails with them.
-/

namespace VmDescriptor

open Program

/-- The limits of the profile of an image. -/
def Inventory.diskQos? (inv : Inventory) (disk : Disk) : Option StorageQos :=
  match disk.backend with
  | .image image => image.profile.bind inv.storageQos?
  | _ => none

namespace Descriptor

/-- A size of the machine does not fit its width: a number of vCPUs, or the memory of a NUMA
node in KiB. -/
def SizesOverflow (vm : VirtualMachine) (config : BuildConfig) (params : CreateParams) : Prop :=
  (vm.CpusOverflow ∨ config.hotPlugCpu ∧ 2 ^ 32 ≤ vm.cpusPerSocket) ∨
    ∃ node ∈ params.numaNodes.getD [], 2 ^ 64 ≤ node.memory.toNat * 1024

instance (vm : VirtualMachine) (config : BuildConfig) (params : CreateParams) :
    Decidable (SizesOverflow vm config params) :=
  inferInstanceAs (Decidable ((_ ∨ _) ∨ _))

/-! ### Sizes -/

section

variable {answer : FixedAnswers} {vm : VirtualMachine} {config : BuildConfig}
  {params : CreateParams}

lemma failure?_exact_eq_none_iff {α : Type} {n : Option α} :
    (exact n).failure? answer = none ↔ n ≠ none := by
  rw [failure?_exact]
  split <;> simp [*]

lemma failure?_sizing_eq_none_iff :
    (sizing vm config).failure? answer = none ↔
      vm.cpuCount? ≠ none ∧ config.maxCpuCount? vm ≠ none := by
  rw [sizing, failure?_bind fun _ _ => failure?_bind_pure, Option.or_eq_none_iff,
    failure?_exact_eq_none_iff, failure?_exact_eq_none_iff]

lemma failure?_topology_eq_none_iff :
    (topology vm config).failure? answer = none ↔
      (config.settings.sendSmp → config.maxCpuCount? vm ≠ none) := by
  unfold topology
  split
  next h =>
    rw [failure?_bind_pure, failure?_exact_eq_none_iff]
    simp [h]
  next h => simp [h]

lemma failure?_numa_eq_none_iff :
    (numa params).failure? answer = none ↔
      ∀ node ∈ params.numaNodes.getD [], ¬ 2 ^ 64 ≤ node.memory.toNat * 1024 := by
  unfold numa
  cases params.numaNodes with
  | none => simp
  | some nodes =>
    have hsize : UInt64.size = 2 ^ 64 := rfl
    have hcell (node : NumaNode) : (numaCell node).failure? answer = none ↔
        ¬ 2 ^ 64 ≤ node.memory.toNat * 1024 := by
      rw [numaCell, failure?_bind_pure, failure?_exact_eq_none_iff, ne_eq, product?_eq_none_iff,
        hsize]
    rw [failure?_bind_pure, failure?_mapM, List.findSome?_eq_none_iff, Option.getD_some]
    exact forall₂_congr fun node _ => hcell node

lemma failure?_cpu_eq_none_iff :
    (cpu vm config params).failure? answer = none ↔
      (topology vm config).failure? answer = none ∧ (numa params).failure? answer = none := by
  rw [cpu, failure?_bind fun _ _ => failure?_bind_pure, Option.or_eq_none_iff]

/-- The sizes are described unless one of them does not fit its width. -/
theorem failure?_sizes_eq_none_iff :
    (sizing vm config).failure? answer = none ∧ (cpu vm config params).failure? answer = none ↔
      ¬ SizesOverflow vm config params := by
  have hcounts : vm.cpuCount? ≠ none ∧ config.maxCpuCount? vm ≠ none ↔
      ¬ (vm.CpusOverflow ∨ config.hotPlugCpu ∧ 2 ^ 32 ≤ vm.cpusPerSocket) := by
    rw [← BuildConfig.cpuCounts_eq_none_iff, not_or]
  rw [failure?_cpu_eq_none_iff, failure?_sizing_eq_none_iff, failure?_topology_eq_none_iff,
    failure?_numa_eq_none_iff, SizesOverflow, not_or, ← hcounts]
  simp only [not_exists, not_and]
  exact ⟨fun ⟨h, _, hnuma⟩ => ⟨h, hnuma⟩, fun ⟨h, hnuma⟩ => ⟨h, fun _ => h.2, hnuma⟩⟩

end

/-! ### Disks -/

section

variable {inv : Inventory} {config : BuildConfig}

lemma failure?_diskStorage (disk : Disk) :
    (diskStorage disk).failure? inv.answer = inv.diskFailure? disk := by
  refine (endsWith_diskStorage disk).failure?_eq fun h => ?_
  rcases mayFail_diskStorage h with h | ⟨_, h⟩ <;> cases h

/-- The limits found with the storage of a disk are those of its profile. -/
lemma qos_eq_of_diskStorage {disk : Disk} {block : Bool} {qos : Option StorageQos}
    (h : (diskStorage disk).MayReturn (fixed inv.answer) (block, qos)) :
    qos = inv.diskQos? disk := by
  unfold diskStorage at h
  unfold Inventory.diskQos?
  cases hbackend : disk.backend with
  | image image =>
    simp only [hbackend] at h
    change qos = image.profile.bind inv.storageQos?
    cases hdomain : image.domains.head? with
    | none => simp [hdomain] at h
    | some domain =>
      simp only [hdomain, mayReturn_bind] at h
      obtain ⟨_ | found, -, h⟩ := h
      · simp at h
      · cases hprofile : image.profile with
        | none =>
          simp only [hprofile, mayReturn_bind] at h
          obtain ⟨limits, hlimits, h⟩ := h
          cases hlimits
          cases h
          rfl
        | some profile =>
          simp only [hprofile, mayReturn_bind] at h
          obtain ⟨limits, hlimits, h⟩ := h
          cases h
          exact (Except.ok.inj (mayReturn_lookup.mp hlimits)).symm
  | _ =>
    simp only [hbackend] at h
    cases h
    rfl

/-- What the limits of a disk fail with. -/
def limitsFailure? (qos : Option StorageQos) : Option BuildError :=
  qos.bind fun q => if q.limits? = none then some .overflow else none

lemma failure?_diskPolicy {answer : FixedAnswers} {d : PlacedDisk}
    (hqos : d.qos = inv.diskQos? d.disk) :
    (diskPolicy d).failure? answer = limitsFailure? d.qos := by
  unfold Inventory.diskQos? at hqos
  unfold diskPolicy
  cases hbackend : d.disk.backend with
  | image image =>
    cases d.qos with
    | none => rfl
    | some q =>
      dsimp only
      rw [failure?_bind_pure, failure?_exact]
      rfl
  | lun v =>
    rw [hbackend] at hqos
    rw [hqos]
    rfl
  | network v =>
    rw [hbackend] at hqos
    rw [hqos]
    rfl

lemma failure?_disk {answer : FixedAnswers} {d : PlacedDisk}
    (hqos : d.qos = inv.diskQos? d.disk) :
    (disk config d).failure? answer = limitsFailure? d.qos := by
  have hdriver : (diskDriver config d).failure? answer = none :=
    failure?_eq_none (fun _ h => absurd h not_mayAsk_diskDriver) fun _ => not_mayFail_diskDriver
  rw [disk, failure?_bind fun _ _ => failure?_bind_pure, hdriver, Option.none_or,
    failure?_diskPolicy hqos]

lemma failure?_disks {vm : VirtualMachine} {devices : List Device} {order : BootOrder}
    {ix : DiskIndices} :
    (disks vm config devices order ix).failure? inv.answer =
      (sortedDisks vm.disks).findSome? fun disk =>
        if (devices.reverse.find? (·.id = ⟨disk.id, vm.id⟩)).any (·.managed) then
          (inv.diskFailure? disk).or (limitsFailure? (inv.diskQos? disk))
        else none := by
  rw [← findSome?_indexedDisks (fun disk => (inv.diskFailure? disk).or
    (limitsFailure? (inv.diskQos? disk))) (sortedDisks vm.disks) ix, disks, failure?_mapM]
  congr 1
  funext x
  obtain ⟨d, device, index⟩ := x
  rw [← failure?_diskStorage]
  refine failure?_bind fun found hstorage => ?_
  obtain ⟨block, qos⟩ := found
  have hqos := qos_eq_of_diskStorage (mayReturn_of_eval hstorage)
  rw [failure?_disk hqos, hqos]

/-! ### Devices and the domain element -/

variable {fresh : FreshIds} {req : Request}

lemma failure?_deviceNodes {cs : DeviceClasses} :
    (deviceNodes req config cs).failure? inv.answer =
      (if cs.peripherals.any DeviceClasses.isDisplay then
          inv.displayFailure? req.vm.cluster else none).or
        ((disks req.vm config cs.disks (bootOrder req.vm cs) (cdIndices req.vm cs)).failure?
          inv.answer) := by
  have hnotices : (notices cs.notices).failure? inv.answer = none :=
    failure?_eq_none (fun _ h => absurd h (not_mayAsk_notices _)) (by simp)
  have hperipherals : (cs.peripherals.mapM (peripheral req.vm req.host config)).failure?
      inv.answer = if cs.peripherals.any DeviceClasses.isDisplay then
        inv.displayFailure? req.vm.cluster else none := by
    rw [failure?_mapM, ← findSome?_peripherals]
    congr 1
    funext p
    exact (endsWith_peripheral p).failure?_eq not_mayFail_peripheral
  have hinterfaces : (cs.interfaces.mapM (interfaceNodes req.vm (bootOrder req.vm cs))).failure?
      inv.answer = none := by
    rw [failure?_mapM, List.findSome?_eq_none_iff]
    exact fun d _ => (endsWith_interfaceNodes d).failure?_eq not_mayFail_interfaceNodes
  rw [deviceNodes, failure?_bind fun _ _ => failure?_bind fun _ _ => failure?_bind fun _ _ =>
    failure?_bind_pure, hnotices, hperipherals, hinterfaces, Option.none_or, Option.none_or]
  rfl

/-- A size that does not fit its width is met before anything else. -/
lemma eval_domain_of_sizesOverflow {answer : FixedAnswers}
    (h : SizesOverflow req.vm config req.params) :
    (domain fresh req config).eval answer = .error .overflow := by
  rw [domain, eval_bind]
  have hsizing : (sizing req.vm config).failure? answer = none ∨ _ :=
    endsWith_sizing.failure?_none_or
  rcases hsizing with hsizing | hsizing
  · have hcpu : (cpu req.vm config req.params).failure? answer = some .overflow :=
      endsWith_cpu.failure?_none_or.resolve_left fun hcpu =>
        failure?_sizes_eq_none_iff.mp ⟨hsizing, hcpu⟩ h
    obtain ⟨nodes, hnodes⟩ := failure?_eq_none_iff.mp hsizing
    rw [hnodes]
    change (cpu req.vm config req.params >>= _).eval answer = _
    rw [eval_bind, failure?_eq_some_iff.mp hcpu]
    rfl
  · rw [failure?_eq_some_iff.mp hsizing]
    rfl

/-- A domain element whose sizes fit fails as its devices do. -/
lemma failure?_domain (h : ¬ SizesOverflow req.vm config req.params) :
    (domain fresh req config).failure? inv.answer =
      (deviceNodes req config (classified fresh req config
        (inv.devicesOf req.vm.id))).failure? inv.answer := by
  have hsizes : (sizing req.vm config).failure? inv.answer = none ∧ _ :=
    failure?_sizes_eq_none_iff.mpr h
  have hstored : inv.answer (.devicesForVm req.vm.id) = .ok (inv.devicesOf req.vm.id) := rfl
  have hdomain : (domain fresh req config).failure? inv.answer =
      ((sizing req.vm config).failure? inv.answer).or
        (((cpu req.vm config req.params).failure? inv.answer).or
          ((deviceNodes req config (classified fresh req config
            (inv.devicesOf req.vm.id))).failure? inv.answer)) := by
    refine failure?_bind fun _ _ => failure?_bind fun _ _ => ?_
    rw [failure?_lookup_bind hstored, failure?_bind_pure]
  rw [hdomain, hsizes.1, hsizes.2, Option.none_or, Option.none_or]

/-- A domain element is described just when its sizes fit and its devices are described. -/
theorem failure?_domain_eq_none_iff :
    (domain fresh req config).failure? inv.answer = none ↔
      ¬ SizesOverflow req.vm config req.params ∧
        (deviceNodes req config (classified fresh req config
          (inv.devicesOf req.vm.id))).failure? inv.answer = none := by
  by_cases h : SizesOverflow req.vm config req.params
  · refine iff_of_false ?_ fun hnone => hnone.1 h
    rw [failure?_eq_some_iff.mpr (eval_domain_of_sizesOverflow h)]
    exact Option.some_ne_none _
  · rw [failure?_domain h, and_iff_right h]

end

end Descriptor

/-! ### Builds from an inventory -/

namespace Fixture

open Descriptor

variable (f : Fixture) (fresh : FreshIds)

/-- The limits of the profile of a disk with a managed device. -/
def diskQos? (disk : Disk) : Option StorageQos :=
  if (f.diskDevice? fresh disk).any (·.managed) then f.inventory.diskQos? disk else none

/-- What a disk fails with: for want of its storage, or with its limits. -/
def diskFailure? (disk : Disk) : Option BuildError :=
  (f.storageFailure? fresh disk).or (limitsFailure? (f.diskQos? fresh disk))

variable {f fresh} {config : EngineConfig}

lemma failure?_classes :
    (deviceNodes f.request (.resolve config f.vm) (f.classes fresh config)).failure?
        f.inventory.answer =
      (f.networkFailure? fresh config).or
        ((sortedDisks f.vm.disks).findSome? (f.diskFailure? fresh)) := by
  have hdisks : (f.classes fresh config).disks =
      (f.startDevices fresh).filter (DeviceClasses.isDiskOf "disk") :=
    DeviceClasses.disks_ofDevices _ _
  rw [failure?_deviceNodes, failure?_disks, hdisks]
  congr 2
  funext disk
  change (if (f.diskDevice? fresh disk).any (·.managed) then _ else _) = _
  rw [diskFailure?, storageFailure?, diskQos?]
  split <;> rfl

/-- A build from an inventory succeeds just when the sizes of the machine fit, the network of its
displays is known and each of its disks can be described. -/
theorem exists_ok_iff :
    (∃ text, (f.build fresh config).result = .ok text) ↔
      ¬ SizesOverflow f.vm (.resolve config f.vm) f.params ∧
        f.networkFailure? fresh config = none ∧
        ∀ disk ∈ f.vm.disks, f.diskFailure? fresh disk = none := by
  have hroot : (∃ text, (f.build fresh config).result = .ok text) ↔
      (domain fresh f.request (.resolve config f.vm)).failure? f.inventory.answer = none := by
    rw [failure?_eq_none_iff, ← root_eq_eval]
    constructor
    · rintro ⟨text, htext⟩
      obtain ⟨root, hroot, -⟩ := Request.build_ok_iff.mp htext
      exact ⟨root, hroot⟩
    · rintro ⟨root, hroot⟩
      exact ⟨_, Request.build_ok_iff.mpr ⟨root, hroot, root.document_eq⟩⟩
  rw [hroot, failure?_domain_eq_none_iff]
  refine and_congr_right fun _ => ?_
  change (deviceNodes f.request (.resolve config f.vm) (f.classes fresh config)).failure?
    f.inventory.answer = none ↔ _
  rw [failure?_classes, Option.or_eq_none_iff, List.findSome?_eq_none_iff]
  simp only [(sortedDisks_perm f.vm.disks).mem_iff]

end Fixture

end VmDescriptor
