import VmDescriptor.Proofs.Descriptor.Overflow
import VmDescriptor.Proofs.Lookups

/-!
The lookups of a build.

The devices of the machine are looked up first, unless a size of the machine does not fit its
width. The display network and the devices of the host are looked up for the first display and
the first host device that the build gets to, and the limits of a profile for its first image.
-/

namespace VmDescriptor

open Program

namespace Descriptor

variable {answer : FixedAnswers} {config : BuildConfig} {c : Lookup}

/-! ### Splits of lists -/

/-- The values of a list split at one just when the list splits at an element that has it. -/
lemma exists_split_filterMap {α β : Type} {f : α → Option β} {P Q : β → Prop} {xs : List α} :
    (∃ before b after, xs.filterMap f = before ++ b :: after ∧ (∀ b' ∈ before, Q b') ∧ P b) ↔
      ∃ before a after, xs = before ++ a :: after ∧
        (∀ a' ∈ before, ∀ b ∈ f a', Q b) ∧ ∃ b ∈ f a, P b := by
  constructor
  · rintro ⟨before, b, after, hxs, hbefore, hb⟩
    obtain ⟨front, back, rfl, rfl, hback⟩ := List.filterMap_eq_append_iff.mp hxs
    obtain ⟨skipped, a, after, rfl, hskipped, ha, -⟩ := List.filterMap_eq_cons_iff.mp hback
    refine ⟨front ++ skipped, a, after, (List.append_assoc ..).symm, ?_, b, ha, hb⟩
    refine List.forall_mem_append.mpr ⟨fun a' ha' b' hb' => ?_, fun a' ha' b' hb' => ?_⟩
    · exact hbefore b' (List.mem_filterMap.mpr ⟨a', ha', hb'⟩)
    · rw [hskipped a' ha'] at hb'
      cases hb'
  · rintro ⟨before, a, after, rfl, hbefore, b, ha, hb⟩
    refine ⟨before.filterMap f, b, after.filterMap f, ?_, fun b' hb' => ?_, hb⟩
    · rw [List.filterMap_append, List.filterMap_cons_some ha]
    · obtain ⟨a', ha', hb'⟩ := List.mem_filterMap.mp hb'
      exact hbefore a' ha' b' hb'

/-! ### Peripherals -/

section

variable {vm : VirtualMachine} {host : Uuid}

/-- What is looked up for a peripheral of some type. -/
def lookupOfType? (vm : VirtualMachine) (host : Uuid) : DeviceType → Option Lookup
  | .graphics => some (.displayNetwork vm.cluster)
  | .hostdev => some (.hostDevices host)
  | _ => none

lemma lookupOfType?_eq_some_iff {type : DeviceType} :
    lookupOfType? vm host type = some c ↔
      type = .graphics ∧ c = .displayNetwork vm.cluster ∨
        type = .hostdev ∧ c = .hostDevices host := by
  cases type <;> simp [lookupOfType?, eq_comm]

lemma asked_peripheral (p : Peripheral) :
    (peripheral vm host config p).asked answer =
      (lookupOfType? vm host (DeviceClasses.typeOf p)).toList := by
  obtain ⟨kind, a⟩ := p
  cases kind with
  | graphics d =>
    change (lookup (.displayNetwork vm.cluster) >>= _).asked answer = _
    rw [asked_bind_eq_self (by simp [not_mayAsk_display]), asked_lookup]
    rfl
  | hostDevice name placeholder =>
    change (lookup (.hostDevices host) >>= _).asked answer = _
    rw [asked_bind_eq_self fun _ _ => not_mayAsk_hostDevice, asked_lookup]
    rfl
  | _ => rfl

/-- A peripheral is described unless its lookup fails. -/
lemma failure?_peripheral_eq_none_iff (p : Peripheral) :
    (peripheral vm host config p).failure? answer = none ↔
      ∀ c ∈ lookupOfType? vm host (DeviceClasses.typeOf p), ∃ a, answer c = .ok a := by
  obtain ⟨kind, a⟩ := p
  cases kind with
  | graphics d =>
    have hrest (network : Option Network) :
        (do return [← display vm config d network] : Program (List Xml.Node)).failure? answer =
          none :=
      failure?_eq_none (by simp [not_mayAsk_display]) (by simp [not_mayFail_display])
    change (lookup (.displayNetwork vm.cluster) >>= _).failure? answer = none ↔ _
    rw [failure?_bind fun network _ => hrest network, Option.or_none,
      failure?_lookup_eq_none_iff]
    simp [lookupOfType?, DeviceClasses.typeOf]
  | hostDevice name placeholder =>
    have hrest (devices : List HostDevice) :
        (hostDevice name placeholder (namedDevice? devices name) a).failure? answer = none :=
      failure?_eq_none (by simp [not_mayAsk_hostDevice]) fun _ => not_mayFail_hostDevice
    change (lookup (.hostDevices host) >>= _).failure? answer = none ↔ _
    rw [failure?_bind fun devices _ => hrest devices, Option.or_none,
      failure?_lookup_eq_none_iff]
    simp [lookupOfType?, DeviceClasses.typeOf]
  | _ => exact iff_of_true rfl (by simp [lookupOfType?, DeviceClasses.typeOf])

end

/-- What is looked up for a device of the list. -/
def lookupFor? (req : Request) (ix : DiskIndices) (d : Device) : Option Lookup :=
  (DeviceClasses.peripheralType? ix d).bind (lookupOfType? req.vm req.host)

lemma lookupFor?_eq_some_iff {req : Request} {ix : DiskIndices} {d : Device} :
    lookupFor? req ix d = some c ↔
      DeviceClasses.DescribesDisplay d ∧ c = .displayNetwork req.vm.cluster ∨
        DeviceClasses.DescribesHostDevice d ∧ c = .hostDevices req.host := by
  simp only [lookupFor?, Option.bind_eq_some_iff, lookupOfType?_eq_some_iff, and_or_left,
    exists_or, ← DeviceClasses.peripheralType?_eq_graphics_iff ix,
    ← DeviceClasses.peripheralType?_eq_hostdev_iff ix]
  simp

lemma mem_asked_peripherals {req : Request} {ix : DiskIndices} {devices : List Device} :
    c ∈ ((DeviceClasses.ofDevices ix devices).peripherals.mapM
        (peripheral req.vm req.host config)).asked answer ↔
      ∃ before d after, devices = before ++ d :: after ∧
        (∀ d' ∈ before, ∀ c' ∈ lookupFor? req ix d', ∃ a, answer c' = .ok a) ∧
        ∃ c' ∈ lookupFor? req ix d, c' = c := by
  have hlookups : (DeviceClasses.ofDevices ix devices).peripherals.filterMap
      (lookupOfType? req.vm req.host ∘ DeviceClasses.typeOf) =
        devices.filterMap (lookupFor? req ix) := by
    rw [← List.filterMap_map, DeviceClasses.typeOf_ofDevices, List.filterMap_filterMap]
    rfl
  rw [mem_asked_mapM, ← exists_split_filterMap, ← hlookups, exists_split_filterMap]
  simp only [asked_peripheral, failure?_peripheral_eq_none_iff, Option.mem_toList,
    Function.comp_apply, exists_eq_right, Option.mem_def]

/-! ### Devices and the domain element -/

section

variable {fresh : FreshIds} {req : Request}

/-- The lookups for displays and host devices are made for peripherals only. -/
lemma mem_asked_deviceNodes {cs : DeviceClasses} (hinterface : ¬ IsInterfaceLookup c)
    (hstorage : c.store ≠ .storage) :
    c ∈ (deviceNodes req config cs).asked answer ↔
      c ∈ (cs.peripherals.mapM (peripheral req.vm req.host config)).asked answer := by
  rw [deviceNodes, asked_notices_bind]
  refine mem_asked_bind fun peripherals h => ?_
  simp only [mayAsk_bind, not_mayAsk_pure, and_false, exists_false, or_false] at h
  rcases h with h | ⟨-, -, h⟩
  · obtain ⟨d, -, h⟩ := mayAsk_mapM h
    exact hinterface (mayAsk_interfaceNodes h)
  · exact hstorage (mayAsk_disks h)

/-- The lookups that the devices of a machine take. -/
def askedDevices (fresh : FreshIds) (req : Request) (config : BuildConfig)
    (answer : FixedAnswers) : List Lookup :=
  .devicesForVm req.vm.id :: match answer (.devicesForVm req.vm.id) with
    | .ok stored => (deviceNodes req config (classified fresh req config stored)).asked answer
    | .error _ => []

/-- The devices are looked up once the sizes are described. -/
lemma asked_domain :
    (domain fresh req config).asked answer =
      if SizesOverflow req.vm config req.params then []
      else askedDevices fresh req config answer := by
  have hrest (root : List Device → List Xml.Node → Xml.Node) :
      (do
        let stored ← .lookup (.devicesForVm req.vm.id)
        let devices ← deviceNodes req config (classified fresh req config stored)
        return root stored devices : Program Xml.Node).asked answer =
      askedDevices fresh req config answer := by
    rw [asked_lookup_bind, askedDevices]
    cases answer (.devicesForVm req.vm.id) with
    | ok stored => exact congrArg _ (asked_bind_eq_self fun _ _ => not_mayAsk_pure _)
    | error e => rfl
  have hdomain : (domain fresh req config).asked answer =
      (sizing req.vm config).asked answer ++
        if (sizing req.vm config).failure? answer = none then
          (cpu req.vm config req.params).asked answer ++
            if (cpu req.vm config req.params).failure? answer = none then
              askedDevices fresh req config answer
            else []
        else [] :=
    asked_bind fun _ _ => asked_bind fun _ _ => hrest _
  have hsizing : (sizing req.vm config).asked answer = [] := asked_eq_nil fun _ => not_mayAsk_sizing
  have hcpu : (cpu req.vm config req.params).asked answer = [] :=
    asked_eq_nil fun _ => not_mayAsk_cpu
  rw [hdomain, hsizing, hcpu, List.nil_append, List.nil_append, ← ite_and,
    if_congr failure?_sizes_eq_none_iff rfl rfl, ite_not]

end

end Descriptor

/-! ### Builds -/

namespace Request

open DeviceClasses Descriptor

/-- The display network gets an answer if the device is a display, and the devices of the host
if it is a host device. -/
structure Served (req : Request) (answer : FixedAnswers) (d : Device) : Prop where
  display : DescribesDisplay d →
    ∃ network, answer (.displayNetwork req.vm.cluster) = .ok network
  hostDevice : DescribesHostDevice d → ∃ devices, answer (.hostDevices req.host) = .ok devices

/-- A build whose sizes fit gets to a device of some kind: the devices of the machine are known,
and what is looked up for the devices before it gets an answer. -/
def Reaches (fresh : FreshIds) (req : Request) (answer : FixedAnswers) (P : Device → Prop) :
    Prop :=
  ∃ stored, answer (.devicesForVm req.vm.id) = .ok stored ∧
    ∃ before d after, RunOnce.devices fresh req.vm req.payload stored = before ++ d :: after ∧
      (∀ d' ∈ before, req.Served answer d') ∧ P d

/-- The devices of the machine are looked up first and once, the devices of the host and the
display network once if the build gets to a device that needs them, and the limits of a profile
once at most. -/
structure LooksUp (fresh : FreshIds) (req : Request) (answer : FixedAnswers)
    (lookups : List Lookup) : Prop where
  devices : ∃ rest, lookups = .devicesForVm req.vm.id :: rest ∧ ∀ vm, .devicesForVm vm ∉ rest
  hostDevices : ∀ host, .hostDevices host ∈ lookups ↔
    host = req.host ∧ req.Reaches fresh answer DescribesHostDevice
  hostDevices_once : ∀ host, lookups.count (.hostDevices host) ≤ 1
  displayNetwork : ∀ cluster, .displayNetwork cluster ∈ lookups ↔
    cluster = req.vm.cluster ∧ req.Reaches fresh answer DescribesDisplay
  displayNetwork_once : ∀ cluster, lookups.count (.displayNetwork cluster) ≤ 1
  storageQos_once : ∀ profile, lookups.count (.storageQos profile) ≤ 1

variable {fresh : FreshIds} {req : Request} {answer : FixedAnswers}

lemma served_iff {ix : DiskIndices} {d : Device} :
    req.Served answer d ↔ ∀ c ∈ lookupFor? req ix d, ∃ a, answer c = .ok a := by
  simp only [Option.mem_def, lookupFor?_eq_some_iff]
  constructor
  · rintro ⟨hdisplay, hhost⟩ c (⟨hd, rfl⟩ | ⟨hd, rfl⟩)
    · exact hdisplay hd
    · exact hhost hd
  · exact fun h => ⟨fun hd => h _ (.inl ⟨hd, rfl⟩), fun hd => h _ (.inr ⟨hd, rfl⟩)⟩

/-- A lookup for displays or host devices is made if the build gets to a device that needs it. -/
lemma mem_askedDevices {config : BuildConfig} {c : Lookup} (hdevice : c.store ≠ .device)
    (hinterface : ¬ IsInterfaceLookup c) (hstorage : c.store ≠ .storage) :
    c ∈ askedDevices fresh req config answer ↔ req.Reaches fresh answer fun d =>
      DescribesDisplay d ∧ c = .displayNetwork req.vm.cluster ∨
        DescribesHostDevice d ∧ c = .hostDevices req.host := by
  have hne : c ≠ .devicesForVm req.vm.id := by
    rintro rfl
    exact hdevice rfl
  rw [askedDevices, List.mem_cons, or_iff_right hne, Reaches]
  cases answer (.devicesForVm req.vm.id) with
  | error e => simp
  | ok stored =>
    simp only [mem_asked_deviceNodes hinterface hstorage, classified, mem_asked_peripherals,
      ← served_iff]
    simp only [Option.mem_def, exists_eq_right, lookupFor?_eq_some_iff, Except.ok.injEq,
      exists_eq_left']

lemma reaches_and_iff {P : Device → Prop} {q : Prop} :
    req.Reaches fresh answer (fun d => P d ∧ q) ↔ q ∧ req.Reaches fresh answer P := by
  simp only [Reaches, ← and_assoc, exists_and_right]
  exact and_comm

lemma asked_descriptor {config : BuildConfig} :
    (req.descriptor fresh config).asked answer = (domain fresh req config).asked answer := by
  rw [descriptor_eq]
  refine asked_bind_eq_self fun root c => ?_
  cases root.document.mapError BuildError.document <;> exact id

lemma lookups_build {config : EngineConfig} :
    (req.build fresh config fun _ => answer).lookups =
      withoutRepeats [] ((domain fresh req (.resolve config req.vm)).asked answer) := by
  rw [build, lookups_run_sharing fun _ _ => rfl, asked_descriptor]

lemma looksUp {config : EngineConfig}
    (h : ¬ SizesOverflow req.vm (.resolve config req.vm) req.params) :
    req.LooksUp fresh answer (req.build fresh config fun _ => answer).lookups := by
  have hlookups : (req.build fresh config fun _ => answer).lookups =
      withoutRepeats [] (askedDevices fresh req (.resolve config req.vm) answer) := by
    rw [lookups_build, asked_domain, if_neg h]
  have hmem {c : Lookup} : c ∈ (req.build fresh config fun _ => answer).lookups ↔
      c ∈ askedDevices fresh req (.resolve config req.vm) answer := by
    rw [hlookups, mem_withoutRepeats, and_iff_left List.not_mem_nil]
  have honce {c : Lookup} (hc : isShared c) :
      (req.build fresh config fun _ => answer).lookups.count c ≤ 1 := by
    rw [hlookups]
    exact count_withoutRepeats_le hc
  refine ⟨?_, fun host => ?_, fun _ => honce rfl, fun cluster => ?_, fun _ => honce rfl,
    fun _ => honce rfl⟩
  · refine ⟨_, hlookups.trans rfl, fun vm hvm => ?_⟩
    have hrest := (mem_withoutRepeats.mp hvm).1
    split at hrest
    · exact mayAsk_deviceNodes (mayAsk_of_mem_asked hrest) rfl
    · cases hrest
  · have hinterface : ¬ IsInterfaceLookup (.hostDevices host) := by
      simp [IsInterfaceLookup, Lookup.store]
    rw [hmem, mem_askedDevices (by simp [Lookup.store]) hinterface (by simp [Lookup.store]),
      ← reaches_and_iff]
    simp only [reduceCtorEq, and_false, false_or, Lookup.hostDevices.injEq]
  · have hinterface : ¬ IsInterfaceLookup (.displayNetwork cluster) := fun h => h.2 cluster rfl
    rw [hmem, mem_askedDevices (by simp [Lookup.store]) hinterface (by simp [Lookup.store]),
      ← reaches_and_iff]
    simp only [reduceCtorEq, and_false, or_false, Lookup.displayNetwork.injEq]

/-- **Lookups are shared**: with fixed answers a build has the result of the program that repeats
every lookup. If a size of the machine does not fit its width it fails before it looks anything
up, else it makes the lookups that the devices of the machine call for. -/
theorem build_looksUp (fresh : FreshIds) (req : Request) (config : EngineConfig)
    (answer : FixedAnswers) :
    (req.build fresh config fun _ => answer).result =
        ((req.descriptor fresh (.resolve config req.vm)).run fun _ => answer).result ∧
      (SizesOverflow req.vm (.resolve config req.vm) req.params →
        (req.build fresh config fun _ => answer).lookups = [] ∧
          (req.build fresh config fun _ => answer).result = .error .overflow) ∧
      (¬ SizesOverflow req.vm (.resolve config req.vm) req.params →
        req.LooksUp fresh answer (req.build fresh config fun _ => answer).lookups) := by
  refine ⟨?_, fun h => ⟨?_, ?_⟩, looksUp⟩
  · rw [build, result_run_sharing fun _ _ => rfl, run, result_runFrom fun _ _ => rfl]
  · rw [lookups_build, asked_domain, if_pos h]
    rfl
  · rw [build_error_iff, root, result_run_sharing fun _ _ => rfl, eval_domain_of_sizesOverflow h]

end Request

namespace Fixture

/-- A machine with two host devices and two displays. -/
def withShared : Fixture :=
  plain (plainMachine none [] [])
    [.plain ⟨⟨1⟩, default⟩ .hostdev "usb_1_2", .plain ⟨⟨2⟩, default⟩ .graphics "vnc",
      .plain ⟨⟨3⟩, default⟩ .graphics "spice", .plain ⟨⟨4⟩, default⟩ .hostdev "usb_1_3"]

/-- What is needed twice is looked up once, also if there is none. -/
theorem build_looksUp_withShared :
    (withShared.build (.constant default) .empty).lookups =
        [.devicesForVm default, .hostDevices default, .displayNetwork default] ∧
      withShared.request.LooksUp (.constant default) withShared.inventory.answer
        (withShared.build (.constant default) .empty).lookups := by
  have hsizes : ¬ Descriptor.SizesOverflow withShared.vm (.resolve .empty withShared.vm)
      withShared.params := by decide +kernel
  exact ⟨by decide +kernel, (Request.build_looksUp (.constant default) withShared.request .empty
    withShared.inventory.answer).2.2 hsizes⟩

/-- A machine with more vCPUs than fit. -/
def oversized : Fixture :=
  plain { plainMachine none [] [] with sockets := 65536, coresPerSocket := 65536 } []

/-- The devices of a machine with too many vCPUs are not looked up. -/
theorem build_oversized_looksUp_none :
    .devicesForVm oversized.vm.id ∉ (oversized.build (.constant default) .empty).lookups := by
  decide +kernel

end Fixture

end VmDescriptor
