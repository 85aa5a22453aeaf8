import VmDescriptor.Proofs.Descriptor.Disks
import VmDescriptor.Proofs.Evaluation

/-!
What the programs of a descriptor look up, and what they fail with of themselves.

Only products that do not fit their width and the storage of images make them fail. The devices
of the machine are looked up once, before everything else.
-/

namespace VmDescriptor

/-- The error is one of describing the machine: a lookup has not failed, nor was the writer
misused. -/
def BuildError.IsOwn : BuildError → Prop
  | .lookup _ | .document _ => False
  | _ => True

lemma BuildError.isOwn_of_eq_overflow {e : BuildError} (h : e = .overflow) : e.IsOwn := by
  rw [h]
  trivial

end VmDescriptor

namespace VmDescriptor.Descriptor

open Program Xml

variable {given : Answers} {e : BuildError} {c : Lookup}

/-! ### Sizing and processors -/

lemma eq_overflow_of_sizing {vm : VirtualMachine} {config : BuildConfig}
    (h : (sizing vm config).MayFail given e) : e = .overflow := by
  simp only [sizing, mayFail_bind, mayFail_exact, mayReturn_exact, mayEnd_pure, reduceCtorEq,
    and_false, exists_false, or_false] at h
  rcases h with h | ⟨_, -, h⟩
  · exact h.2
  · exact h.2

lemma not_mayAsk_sizing {vm : VirtualMachine} {config : BuildConfig} :
    ¬ (sizing vm config).MayAsk given c := by
  simp [sizing]

lemma eq_overflow_of_cpu {vm : VirtualMachine} {config : BuildConfig} {params : CreateParams}
    (h : (cpu vm config params).MayFail given e) : e = .overflow := by
  have htopology (h : (topology vm config).MayFail given e) : e = .overflow := by
    unfold topology at h
    split at h <;> simp_all
  have hnuma (h : (numa params).MayFail given e) : e = .overflow := by
    unfold numa at h
    split at h
    · simp at h
    · simp only [bind_pure_comp, mayFail_map] at h
      obtain ⟨node, -, h⟩ := mayFail_mapM h
      simp only [numaCell, bind_pure_comp, mayFail_map, mayFail_exact] at h
      exact h.2
  simp only [cpu, mayFail_bind, mayEnd_pure, reduceCtorEq, and_false, exists_false,
    or_false] at h
  rcases h with h | ⟨_, -, h⟩
  · exact htopology h
  · exact hnuma h

lemma not_mayAsk_cpu {vm : VirtualMachine} {config : BuildConfig} {params : CreateParams} :
    ¬ (cpu vm config params).MayAsk given c := by
  have htopology : ¬ (topology vm config).MayAsk given c := by
    unfold topology
    split <;> simp
  have hnuma : ¬ (numa params).MayAsk given c := by
    unfold numa
    split
    · simp
    · intro h
      simp only [bind_pure_comp, mayAsk_map] at h
      obtain ⟨node, -, h⟩ := mayAsk_mapM h
      simp [numaCell] at h
  simp [cpu, htopology, hnuma]

/-! ### Peripherals -/

section

variable {vm : VirtualMachine} {host : Uuid} {config : BuildConfig}

lemma not_mayFail_display {d : Display} {network : Option Network} :
    ¬ (display vm config d network).MayFail given e := by
  unfold display spiceOptions
  cases d.type <;> cases config.settings.sslEnabled <;> simp [secureChannels]

lemma not_mayAsk_display {d : Display} {network : Option Network} :
    ¬ (display vm config d network).MayAsk given c := by
  unfold display spiceOptions
  cases d.type <;> cases config.settings.sslEnabled <;> simp [secureChannels]

lemma not_mayFail_hostDevice {name : String} {placeholder : Bool} {found : Option HostDevice}
    {a : Address} : ¬ (hostDevice name placeholder found a).MayFail given e := by
  unfold hostDevice
  split
  · simp
  · split <;> simp

lemma not_mayAsk_hostDevice {name : String} {placeholder : Bool} {found : Option HostDevice}
    {a : Address} : ¬ (hostDevice name placeholder found a).MayAsk given c := by
  unfold hostDevice
  split
  · simp
  · split <;> simp

lemma not_mayFail_peripheral {p : Peripheral} :
    ¬ (peripheral vm host config p).MayFail given e := by
  unfold peripheral
  cases p.kind <;> simp [not_mayFail_display, not_mayFail_hostDevice,
    not_mayFail_lookup (.displayNetwork vm.cluster), not_mayFail_lookup (.hostDevices host)]

lemma mayAsk_peripheral {p : Peripheral} (h : (peripheral vm host config p).MayAsk given c) :
    c = .hostDevices host ∨ c = .displayNetwork vm.cluster ∧ DeviceClasses.isDisplay p := by
  unfold peripheral at h
  unfold DeviceClasses.isDisplay
  cases hkind : p.kind with
  | graphics d =>
    simp only [hkind, mayAsk_bind, mayAsk_lookup (.displayNetwork vm.cluster),
      not_mayAsk_display, not_mayAsk_pure, and_false, exists_false, or_false] at h
    exact .inr ⟨h, rfl⟩
  | hostDevice name placeholder =>
    simp only [hkind, mayAsk_bind, mayAsk_lookup (.hostDevices host), not_mayAsk_hostDevice,
      and_false, exists_false, or_false] at h
    exact .inl h
  | _ =>
    simp only [hkind] at h
    exact absurd h (not_mayAsk_pure _)

end

/-! ### Interfaces -/

section

variable {vm : VirtualMachine}

/-- The notice about a setting for the network of a NIC that is neither true nor false. -/
def invalidVhost (vm : VirtualMachine) (nic : Nic) : List Notice :=
  match vm.customProperty? "vhost", nic.networkName with
  | some property, some network =>
    match Vhost.setting? property network with
    | some (.invalid value) => [.invalidVhost network value]
    | _ => []
  | _, _ => []

/-- The driver of a NIC is found without lookups. -/
lemma driver?_eq (vm : VirtualMachine) (nic : Nic) :
    ∃ driver, driver? vm nic = (do notices (invalidVhost vm nic); return driver) := by
  unfold driver? invalidVhost
  cases vm.customProperty? "vhost" with
  | none => exact ⟨none, rfl⟩
  | some property =>
    cases nic.networkName with
    | none => exact ⟨none, rfl⟩
    | some network =>
      dsimp only
      cases Vhost.setting? property network with
      | none => exact ⟨none, rfl⟩
      | some setting =>
        cases setting with
        | invalid value => exact ⟨none, rfl⟩
        | kernel => exact ⟨some "vhost", rfl⟩
        | emulator => exact ⟨some "qemu", rfl⟩

lemma not_mayFail_nicFilter {nic : Nic} {profile : VnicProfile} :
    ¬ (nicFilter nic profile).MayFail given e := by
  unfold nicFilter
  cases profile.filter with
  | none => simp
  | some id =>
    intro h
    simp only [mayFail_bind, not_mayFail_lookup (.networkFilter id), false_or] at h
    obtain ⟨_ | filter, -, h⟩ := h
    · simp at h
    · simp [not_mayFail_lookup (.filterParameters nic.id)] at h

lemma not_mayFail_nicBacking {nic : Nic} : ¬ (nicBacking nic).MayFail given e := by
  unfold nicBacking
  cases nic.profile with
  | none => simp
  | some id =>
    intro h
    simp only [mayFail_bind, not_mayFail_lookup (.vnicProfile id), false_or] at h
    obtain ⟨_ | profile, -, h⟩ := h
    · simp at h
    · simp only [mayFail_bind, not_mayFail_lookup (.network profile.network), false_or] at h
      obtain ⟨_ | network, -, h⟩ := h <;> simp [not_mayFail_nicFilter] at h

lemma not_mayFail_interface {d : InterfaceDevice} {nic : Nic} {backing : Option NicBacking}
    {position : Nat} : ¬ (interface vm d nic backing position).MayFail given e := by
  obtain ⟨driver, hdriver⟩ := driver?_eq vm nic
  unfold interface bridgeNodes
  cases d.kind <;> simp [hdriver]

lemma not_mayFail_interfaceNodes {order : BootOrder} {d : InterfaceDevice} :
    ¬ (interfaceNodes vm order d).MayFail given e := by
  unfold interfaceNodes
  split <;> simp [not_mayFail_nicBacking, not_mayFail_interface]

/-- A lookup in the network store, but not of the network of displays. -/
def IsInterfaceLookup (c : Lookup) : Prop :=
  c.store = .network ∧ ∀ cluster, c ≠ .displayNetwork cluster

lemma mayAsk_nicFilter {nic : Nic} {profile : VnicProfile}
    (h : (nicFilter nic profile).MayAsk given c) : IsInterfaceLookup c := by
  unfold nicFilter at h
  cases hid : profile.filter with
  | none => simp [hid] at h
  | some id =>
    simp only [hid, mayAsk_bind, mayAsk_lookup (.networkFilter id)] at h
    rcases h with rfl | ⟨_ | filter, -, h⟩
    · exact ⟨rfl, by simp⟩
    · exact absurd h (not_mayAsk_pure _)
    · simp only [mayAsk_bind, mayAsk_lookup (.filterParameters nic.id), not_mayAsk_pure,
        and_false, exists_false, or_false] at h
      subst h
      exact ⟨rfl, by simp⟩

lemma mayAsk_nicBacking {nic : Nic} (h : (nicBacking nic).MayAsk given c) :
    IsInterfaceLookup c := by
  unfold nicBacking at h
  cases hid : nic.profile with
  | none => simp [hid] at h
  | some id =>
    simp only [hid, mayAsk_bind, mayAsk_lookup (.vnicProfile id)] at h
    rcases h with rfl | ⟨_ | profile, -, h⟩
    · exact ⟨rfl, by simp⟩
    · simp at h
    · simp only [mayAsk_bind, mayAsk_lookup (.network profile.network)] at h
      rcases h with rfl | ⟨_ | network, -, h⟩
      · exact ⟨rfl, by simp⟩
      · exact mayAsk_nicFilter (by simpa [mayAsk_bind] using h)
      · exact mayAsk_nicFilter (by simpa [mayAsk_bind] using h)

lemma mayAsk_interfaceNodes {order : BootOrder} {d : InterfaceDevice}
    (h : (interfaceNodes vm order d).MayAsk given c) : IsInterfaceLookup c := by
  have hinterface {nic : Nic} {backing : Option NicBacking} {position : Nat} :
      ¬ (interface vm d nic backing position).MayAsk given c := by
    obtain ⟨driver, hdriver⟩ := driver?_eq vm nic
    unfold interface bridgeNodes
    cases d.kind <;> simp [hdriver]
  unfold interfaceNodes at h
  split at h
  · simp at h
  · simp only [mayAsk_bind, hinterface, not_mayAsk_pure, and_false, exists_false, or_false] at h
    exact mayAsk_nicBacking h

end

/-! ### Disks -/

lemma not_mayFail_diskDriver {config : BuildConfig} {d : PlacedDisk} :
    ¬ (diskDriver config d).MayFail given e := by
  unfold diskDriver ioThread
  split <;> simp

lemma not_mayAsk_diskDriver {config : BuildConfig} {d : PlacedDisk} :
    ¬ (diskDriver config d).MayAsk given c := by
  unfold diskDriver ioThread
  split <;> simp

lemma eq_overflow_of_disk {config : BuildConfig} {d : PlacedDisk}
    (h : (disk config d).MayFail given e) : e = .overflow := by
  have hpolicy (h : (diskPolicy d).MayFail given e) : e = .overflow := by
    unfold diskPolicy at h
    split at h <;> simp_all
  simp only [disk, mayFail_bind, not_mayFail_diskDriver, mayEnd_pure, reduceCtorEq, and_false,
    exists_false, or_false, false_or] at h
  obtain ⟨_, -, h⟩ := h
  exact hpolicy h

lemma not_mayAsk_disk {config : BuildConfig} {d : PlacedDisk} :
    ¬ (disk config d).MayAsk given c := by
  have hpolicy : ¬ (diskPolicy d).MayAsk given c := by
    unfold diskPolicy
    split <;> simp
  simp [disk, not_mayAsk_diskDriver, hpolicy]

/-- Looking up the storage of a disk fails of itself only if the disk has none that is known. -/
lemma mayFail_diskStorage {disk : Disk} (h : (diskStorage disk).MayFail given e) :
    e = .noStorageForImage disk.id ∨ ∃ domain, e = .missingStorageDomain disk.id domain := by
  unfold diskStorage at h
  cases hbackend : disk.backend with
  | image image =>
    simp only [hbackend] at h
    cases hdomain : image.domains.head? with
    | none =>
      simp only [hdomain] at h
      exact .inl (Except.error.inj h)
    | some domain =>
      simp only [hdomain, mayFail_bind, not_mayFail_lookup (.storageDomain domain), false_or] at h
      obtain ⟨_ | found, -, h⟩ := h
      · exact .inr ⟨domain, Except.error.inj h⟩
      · cases hprofile : image.profile with
        | none => simp [hprofile] at h
        | some profile => simp [hprofile, not_mayFail_lookup (.storageQos profile)] at h
  | _ => simp [hbackend] at h

lemma isOwn_of_diskStorage {disk : Disk} (h : (diskStorage disk).MayFail given e) : e.IsOwn := by
  rcases mayFail_diskStorage h with rfl | ⟨_, rfl⟩ <;> trivial

lemma mayAsk_diskStorage {disk : Disk} (h : (diskStorage disk).MayAsk given c) :
    c.store = .storage := by
  unfold diskStorage at h
  cases hbackend : disk.backend with
  | image image =>
    simp only [hbackend] at h
    cases hdomain : image.domains.head? with
    | none =>
      simp only [hdomain] at h
      exact absurd h (not_mayAsk_fail _)
    | some domain =>
      simp only [hdomain, mayAsk_bind, mayAsk_lookup (.storageDomain domain)] at h
      rcases h with rfl | ⟨_ | found, -, h⟩
      · rfl
      · exact absurd h (not_mayAsk_fail _)
      · cases hprofile : image.profile with
        | none => simp [hprofile] at h
        | some profile =>
          simp only [hprofile, mayAsk_bind, mayAsk_lookup (.storageQos profile),
            not_mayAsk_pure, and_false, exists_false, or_false] at h
          subst h
          rfl
  | _ => simp [hbackend] at h

lemma mayAsk_disks {vm : VirtualMachine} {config : BuildConfig} {devices : List Device}
    {order : BootOrder} {ix : DiskIndices}
    (h : (disks vm config devices order ix).MayAsk given c) : c.store = .storage := by
  obtain ⟨x, -, h⟩ := mayAsk_mapM h
  simp only [mayAsk_bind, not_mayAsk_disk, and_false, exists_false, or_false] at h
  exact mayAsk_diskStorage h

/-! ### All devices -/

section

variable {req : Request} {config : BuildConfig} {cs : DeviceClasses}

/-- The devices are described from what is stored elsewhere. -/
lemma mayAsk_deviceNodes (h : (deviceNodes req config cs).MayAsk given c) : c.store ≠ .device := by
  simp only [deviceNodes, mayAsk_bind, not_mayAsk_notices, not_mayAsk_pure, and_false,
    exists_false, or_false, false_or] at h
  obtain ⟨-, -, h | ⟨-, -, h | ⟨-, -, h⟩⟩⟩ := h
  · obtain ⟨p, -, h⟩ := mayAsk_mapM h
    rcases mayAsk_peripheral h with rfl | ⟨rfl, -⟩ <;> simp [Lookup.store]
  · obtain ⟨d, -, h⟩ := mayAsk_mapM h
    rw [(mayAsk_interfaceNodes h).1]
    decide
  · rw [mayAsk_disks h]
    decide

/-- Devices fail of themselves only with a product or with the storage of an image. -/
lemma isOwn_of_deviceNodes (h : (deviceNodes req config cs).MayFail given e) : e.IsOwn := by
  simp only [deviceNodes, mayFail_bind, mayEnd_notices, mayEnd_pure, reduceCtorEq, and_false,
    exists_false, or_false, false_or] at h
  obtain ⟨-, -, h | ⟨-, -, h | ⟨-, -, h⟩⟩⟩ := h
  · obtain ⟨p, -, h⟩ := mayFail_mapM h
    exact absurd h not_mayFail_peripheral
  · obtain ⟨d, -, h⟩ := mayFail_mapM h
    exact absurd h not_mayFail_interfaceNodes
  · obtain ⟨x, -, h⟩ := mayFail_mapM h
    rcases mayFail_bind.mp h with hstorage | ⟨_, -, hdisk⟩
    · exact isOwn_of_diskStorage hstorage
    · exact BuildError.isOwn_of_eq_overflow (eq_overflow_of_disk hdisk)

/-- Describing a domain never misuses the writer, and reports no failed lookup of its own. -/
lemma isOwn_of_domain {fresh : FreshIds} (h : (domain fresh req config).MayFail given e) :
    e.IsOwn := by
  simp only [domain, mayFail_bind, mayEnd_pure, reduceCtorEq, and_false, exists_false,
    or_false] at h
  obtain h | ⟨-, -, h | ⟨-, -, h | ⟨stored, -, h⟩⟩⟩ := h
  · exact BuildError.isOwn_of_eq_overflow (eq_overflow_of_sizing h)
  · exact BuildError.isOwn_of_eq_overflow (eq_overflow_of_cpu h)
  · exact absurd h (not_mayFail_lookup _)
  · exact isOwn_of_deviceNodes h

end

end VmDescriptor.Descriptor

namespace VmDescriptor.Request

open Program Xml

/-- A root is described from the devices that the stores answer with at first. -/
theorem exists_stored {fresh : FreshIds} {req : Request} {config : EngineConfig} {stores : Stores}
    {root : Node} (h : req.root fresh config stores = .ok root) :
    ∃ stored, stores [] (.devicesForVm req.vm.id) = .ok stored ∧
      ∃ sizingNodes, (Descriptor.sizing req.vm (.resolve config req.vm)).MayReturn
        (givenBy stores) sizingNodes ∧
      ∃ cpuNode, (Descriptor.cpu req.vm (.resolve config req.vm) req.params).MayReturn
        (givenBy stores) cpuNode ∧
      ∃ devices, (Descriptor.deviceNodes req (.resolve config req.vm)
          (Descriptor.classified fresh req (.resolve config req.vm) stored)).MayReturn
        (givenBy stores) devices ∧
        root = .element "domain" Descriptor.rootAttributes
          (Descriptor.sections req (.resolve config req.vm) sizingNodes cpuNode devices
            (Descriptor.classified fresh req (.resolve config req.vm) stored).serialConsole?.isSome)
      := by
  obtain ⟨sizingNodes, hsizing, h⟩ :=
    exists_of_runFrom_bind (fun _ => Descriptor.not_mayAsk_sizing) h
  obtain ⟨cpuNode, hcpu, h⟩ :=
    exists_of_runFrom_bind (fun _ => Descriptor.not_mayAsk_cpu) h
  obtain ⟨stored, hstored, h⟩ := exists_of_runFrom_lookup_bind admissible_none rfl h
  obtain ⟨devices, hdevices, hroot⟩ := mayReturn_bind.mp h
  exact ⟨stored, hstored, sizingNodes, hsizing, cpuNode, hcpu, devices, hdevices,
    Except.ok.inj hroot⟩

end VmDescriptor.Request

namespace VmDescriptor.Fixture

/-- In builds from an inventory it makes no difference that lookups are shared. -/
lemma root_eq_eval (f : Fixture) (fresh : FreshIds) (config : EngineConfig) :
    f.root fresh config = (Descriptor.domain fresh f.request (.resolve config f.vm)).eval
      f.inventory.answer :=
  Program.result_run_sharing (fun _ _ => rfl) _

end VmDescriptor.Fixture
