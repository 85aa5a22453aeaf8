import VmDescriptor.Fixture
import VmDescriptor.Proofs.Descriptor.Vocabulary
import VmDescriptor.Proofs.Encoder.Domain
import VmDescriptor.Proofs.Xml.Writing

/-!
Builds and the trees that they write.

Writing a tree never fails, so a build succeeds just when its domain element can be described.
The domain element is taken apart into its sections, and its devices into those of each class.
-/

namespace VmDescriptor

open Program Xml

/-! ### The root of a build -/

namespace Request

/-- The domain element that a build describes. -/
def root (fresh : FreshIds) (req : Request) (config : EngineConfig) (stores : Stores) :
    Except BuildError Node :=
  ((Descriptor.domain fresh req (.resolve config req.vm)).sharing.run stores).result

variable {fresh : FreshIds} {req : Request} {config : EngineConfig} {stores : Stores}

/-- A build does what describing its root does, and writes the document in the end. -/
lemma build_eq :
    req.build fresh config stores =
      let run := (Descriptor.domain fresh req (.resolve config req.vm)).sharing.run stores
      ⟨run.result >>= fun root => root.document.mapError .document, run.lookups, run.notices⟩ := by
  simp only [build, sharing, run, descriptor_eq, remembering_bind_ofExcept, runFrom_bind_ofExcept]

lemma result_build :
    (req.build fresh config stores).result =
      req.root fresh config stores >>= fun root => root.document.mapError .document := by
  rw [build_eq, root]

/-- A build that describes a root writes the document of that root. -/
theorem build_ok_iff {text : String} :
    (req.build fresh config stores).result = .ok text ↔
      ∃ root, req.root fresh config stores = .ok root ∧ root.document = .ok text := by
  rw [result_build]
  cases req.root fresh config stores with
  | error e => simp [Bind.bind, Except.bind]
  | ok root => simp [Bind.bind, Except.bind, root.document_eq, Except.mapError]

theorem build_error_iff {e : BuildError} :
    (req.build fresh config stores).result = .error e ↔
      req.root fresh config stores = .error e := by
  rw [result_build]
  cases req.root fresh config stores with
  | error e' => simp [Bind.bind, Except.bind]
  | ok root => simp [Bind.bind, Except.bind, root.document_eq, Except.mapError]

lemma mayReturn_root {root : Node} (h : req.root fresh config stores = .ok root) :
    (Descriptor.domain fresh req (.resolve config req.vm)).MayReturn (givenBy stores) root :=
  mayReturn_of_run_sharing h

end Request

/-! ### The parts of a root -/

namespace Descriptor

variable {given : Answers} {fresh : FreshIds} {req : Request} {config : BuildConfig}

/-- The children of the domain element with some sizing, CPU and devices. -/
def sections (req : Request) (config : BuildConfig) (sizing : List Node) (cpu : Node)
    (devices : List Node) (serial : Bool) : List Node :=
  sizing ++ [metadata req.vm] ++ sysinfo req.vm ++ [clock req.vm config] ++
    powerEvents req.isVolatile ++ features req.vm config ++ [cpu] ++ cpuTune req.params ++
    numaTune req.params ++ [.element "devices" [] devices] ++ [os req.vm config serial]

lemma mayReturn_domain {root : Node} :
    (domain fresh req config).MayReturn given root ↔
      ∃ sizingNodes, (sizing req.vm config).MayReturn given sizingNodes ∧
      ∃ cpuNode, (cpu req.vm config req.params).MayReturn given cpuNode ∧
      ∃ stored, given (.devicesForVm req.vm.id) stored ∧
      ∃ devices, (deviceNodes req config (classified fresh req config stored)).MayReturn given
          devices ∧
        root = .element "domain" rootAttributes (sections req config sizingNodes cpuNode devices
          (classified fresh req config stored).serialConsole?.isSome) := by
  simp only [domain, mayReturn_bind, mayEnd_pure, Except.ok.injEq, sections]
  constructor
  · rintro ⟨sizingNodes, hsizing, cpuNode, hcpu, stored, hgiven, devices, hdevices, rfl⟩
    exact ⟨sizingNodes, hsizing, cpuNode, hcpu, stored, mayReturn_lookup.mp hgiven, devices,
      hdevices, rfl⟩
  · rintro ⟨sizingNodes, hsizing, cpuNode, hcpu, stored, hgiven, devices, hdevices, rfl⟩
    exact ⟨sizingNodes, hsizing, cpuNode, hcpu, stored, mayReturn_lookup.mpr hgiven, devices,
      hdevices, rfl⟩

/-- The indices after those of the CD-ROMs are reserved. -/
def cdIndices (vm : VirtualMachine) (cs : DeviceClasses) : DiskIndices :=
  (userCdroms vm cs.cdroms (bootOrder vm cs) (payloadCdroms cs.cdroms cs.indices).2).2

/-- The elements of the CD-ROMs and the floppy. -/
def removableNodes (vm : VirtualMachine) (cs : DeviceClasses) : List Node :=
  (payloadCdroms cs.cdroms cs.indices).1 ++
    (userCdroms vm cs.cdroms (bootOrder vm cs) (payloadCdroms cs.cdroms cs.indices).2).1 ++
    cs.floppy.toList.map (floppy vm)

lemma mayReturn_deviceNodes {cs : DeviceClasses} {devices : List Node} :
    (deviceNodes req config cs).MayReturn given devices ↔
      ∃ peripherals,
        (cs.peripherals.mapM (peripheral req.vm req.host config)).MayReturn given peripherals ∧
      ∃ interfaces, (cs.interfaces.mapM
        (interfaceNodes req.vm (bootOrder req.vm cs))).MayReturn given interfaces ∧
      ∃ diskNodes, (disks req.vm config cs.disks (bootOrder req.vm cs)
        (cdIndices req.vm cs)).MayReturn given diskNodes ∧
        devices = fixedDevices req.vm ++ peripherals.flatten ++ dependentDevices req.vm cs ++
          interfaces.flatten ++ removableNodes req.vm cs ++ diskNodes := by
  simp only [deviceNodes, mayReturn_bind, mayEnd_notices, Except.ok.injEq, mayEnd_pure,
    exists_const, removableNodes, cdIndices, List.append_assoc]
  simp only [true_and]

/-! ### Elements of a root by name -/

lemma every_sections {sizingNodes : List Node} {cpuNode : Node} (devices : List Node)
    (serial : Bool)
    (hsizing : (sizing req.vm config).MayReturn given sizingNodes)
    (hcpu : (cpu req.vm config req.params).MayReturn given cpuNode) {V : String → Prop}
    (hV : ∀ name ∈ sectionVocabulary, V name) (hmetadata : ∀ name, MetadataName name → V name)
    (hdevicesName : V "devices") (hdevices : EveryIn (Regular V) devices) :
    EveryIn (Regular V) (sections req config sizingNodes cpuNode devices serial) := by
  have hclock := (every_clock req.vm config).imp fun _ he => he.imp hV
  have hcpu := (every_cpu hcpu).imp fun _ he => he.imp hV
  have hos := (every_os req.vm config serial).imp fun _ he => he.imp hV
  have hmetadata := (every_metadata req.vm).imp fun _ he => he.imp hmetadata
  simp only [sections, everyIn_append, everyIn_cons, everyIn_nil, every_element,
    regular_element, List.map_nil, List.nodup_nil, and_true]
  exact ⟨⟨⟨⟨⟨⟨⟨⟨⟨⟨(every_sizing hsizing).imp hV, hmetadata⟩, (every_sysinfo req.vm).imp hV⟩,
    hclock⟩, (every_powerEvents req.isVolatile).imp hV⟩,
    (every_features req.vm config).imp hV⟩, hcpu⟩, (every_cpuTune req.params).imp hV⟩,
    (every_numaTune req.params).imp hV⟩, hdevicesName, hdevices⟩, hos⟩

/-- The name is that of no section of a descriptor. -/
def IsDeviceName (name : String) : Prop :=
  name ∉ "domain" :: "devices" :: sectionVocabulary ∧ ¬ MetadataName name

lemma isDeviceName {name : String} (hsection : name ∉ "domain" :: "devices" :: sectionVocabulary)
    (hplain : name ∉ ["metadata", "minGuaranteedMemoryMb", "clusterVersion"])
    (hcolon : ':' ∉ name.toList) : IsDeviceName name := by
  refine ⟨hsection, ?_⟩
  have hqualified (space rest : String) : name ≠ Writer.qualified space rest := by
    rintro rfl
    exact hcolon (by simp [Writer.qualified])
  rintro (h | ⟨rest, h⟩ | ⟨rest, h⟩)
  · exact hplain h
  · exact hqualified _ _ h
  · exact hqualified _ _ h

lemma elementsNamed_sections {name : String} (hname : IsDeviceName name)
    {sizingNodes devices : List Node} {cpuNode : Node} {serial : Bool}
    (hsizing : (sizing req.vm config).MayReturn given sizingNodes)
    (hcpu : (cpu req.vm config req.params).MayReturn given cpuNode) :
    elementsNamed name [.element "domain" rootAttributes
        (sections req config sizingNodes cpuNode devices serial)] =
      elementsNamed name devices := by
  obtain ⟨hsection, hmetadata⟩ := hname
  simp only [List.mem_cons, not_or] at hsection
  have hnil {ns : List Node} (h : EveryIn (Regular (· ∈ sectionVocabulary)) ns) :
      elementsNamed name ns = [] := elementsNamed_eq_nil h hsection.2.2
  have hsingle {n : Node} (h : n.Every (Regular (· ∈ sectionVocabulary))) :
      elementsNamed name [n] = [] := hnil (by simpa using h)
  have hmetadata : elementsNamed name [metadata req.vm] = [] :=
    elementsNamed_eq_nil (by simpa using every_metadata req.vm) hmetadata
  simp only [elementsNamed_element, sections, elementsNamed_append, hnil (every_sizing hsizing),
    hmetadata, hnil (every_sysinfo _), hsingle (every_clock _ _), hnil (every_powerEvents _),
    hnil (every_features _ _), hsingle (every_cpu hcpu), hnil (every_cpuTune _),
    hnil (every_numaTune _), hsingle (every_os _ _ _), Ne.symm hsection.1, Ne.symm hsection.2.1,
    if_false, List.nil_append, List.append_nil]

lemma every_peripherals {vm : VirtualMachine} {host : Uuid} {ps : List Peripheral}
    {nss : List (List Node)}
    (h : (ps.mapM (peripheral vm host config)).MayReturn given nss) :
    EveryIn (Regular (· ∈ peripheralVocabulary)) nss.flatten := by
  refine everyIn_flatten.mpr fun ns hns => ?_
  obtain ⟨p, -, hp⟩ := exists_mem_of_mayReturn_mapM h hns
  exact every_peripheral hp

lemma every_interfaces {vm : VirtualMachine} {order : BootOrder} {ds : List InterfaceDevice}
    {nss : List (List Node)} (h : (ds.mapM (interfaceNodes vm order)).MayReturn given nss) :
    EveryIn (Regular (· ∈ interfaceVocabulary)) nss.flatten := by
  refine everyIn_flatten.mpr fun ns hns => ?_
  obtain ⟨d, -, hd⟩ := exists_mem_of_mayReturn_mapM h hns
  exact every_interfaceNodes hd

/-- The interfaces, CD-ROMs, floppy and disks of some devices have all elements with names that
no peripheral has. -/
lemma elementsNamed_deviceNodes {cs : DeviceClasses} {devices : List Node}
    (h : (deviceNodes req config cs).MayReturn given devices) :
    ∃ interfaces, (cs.interfaces.mapM
        (interfaceNodes req.vm (bootOrder req.vm cs))).MayReturn given interfaces ∧
      ∃ diskNodes, (disks req.vm config cs.disks (bootOrder req.vm cs)
        (cdIndices req.vm cs)).MayReturn given diskNodes ∧
      ∀ name ∉ peripheralVocabulary, elementsNamed name devices =
        elementsNamed name interfaces.flatten ++ elementsNamed name (removableNodes req.vm cs) ++
          elementsNamed name diskNodes := by
  obtain ⟨peripherals, hperipherals, interfaces, hinterfaces, diskNodes, hdisks, rfl⟩ :=
    mayReturn_deviceNodes.mp h
  refine ⟨interfaces, hinterfaces, diskNodes, hdisks, fun name hname => ?_⟩
  have hnil {ns : List Node} (h : EveryIn (Regular (· ∈ peripheralVocabulary)) ns) :
      elementsNamed name ns = [] := elementsNamed_eq_nil h hname
  simp only [elementsNamed_append, hnil (every_fixedDevices req.vm),
    hnil (every_peripherals hperipherals), hnil (every_dependentDevices req.vm cs),
    List.nil_append]

end Descriptor

/-! ### Fixtures -/

namespace Fixture

/-- The domain element that a build from a fixture describes. -/
def root (f : Fixture) (fresh : FreshIds) (config : EngineConfig) : Except BuildError Node :=
  f.request.root fresh config (.ofInventory f.inventory)

/-- The devices that a fixture's machine is started with. -/
def startDevices (f : Fixture) (fresh : FreshIds) : List Device :=
  RunOnce.devices fresh f.vm f.payload (f.inventory.devicesOf f.vm.id)

/-- The devices that a fixture's machine is started with, by class. -/
def classes (f : Fixture) (fresh : FreshIds) (config : EngineConfig) : DeviceClasses :=
  Descriptor.classified fresh f.request (.resolve config f.vm) (f.inventory.devicesOf f.vm.id)

variable {f : Fixture} {fresh : FreshIds} {config : EngineConfig} {root : Node}

lemma eq_of_givenBy {inv : Inventory} {c : Lookup} {a : c.Answer}
    (h : givenBy (.ofInventory inv) c a) : inv.answer c = .ok a := by
  obtain ⟨_, h⟩ := h
  exact h

lemma exists_devices (h : f.root fresh config = .ok root) :
    ∃ devices, (Descriptor.deviceNodes f.request (.resolve config f.vm)
        (f.classes fresh config)).MayReturn (givenBy (.ofInventory f.inventory)) devices ∧
      ∀ name, Descriptor.IsDeviceName name →
        elementsNamed name [root] = elementsNamed name devices := by
  obtain ⟨sizingNodes, hsizing, cpuNode, hcpu, stored, hgiven, devices, hdevices, rfl⟩ :=
    Descriptor.mayReturn_domain.mp (Request.mayReturn_root h)
  obtain rfl : f.inventory.devicesOf f.vm.id = stored := Except.ok.inj (eq_of_givenBy hgiven)
  exact ⟨devices, hdevices, fun name hname =>
    Descriptor.elementsNamed_sections hname hsizing hcpu⟩

/-- A machine of a given type with disks and NICs, and nothing that may be missing. -/
def plainMachine (type : Option String) (disks : List Disk) (nics : List Nic) :
    VirtualMachine where
  id := default
  name := "plain"
  cluster := default
  memory := 1024
  maxMemory := 1024
  guaranteedMemory := 0
  ioThreads := 0
  sockets := 1
  coresPerSocket := 1
  threadsPerCore := 1
  arch := .x86_64
  emulatedMachine := type
  compatibility := ⟨4, 2⟩
  os := 0
  bootSequence := default
  displayType := none
  graphics := .empty
  fileTransfer := true
  copyPaste := true
  keyboard := none
  defaultKeyboard := none
  lease := none
  customProperties := .empty
  clockOffset := none
  acpi := false
  bootMenu := false
  kernel := none
  kernelParameters := none
  initrd := none
  cdPath := none
  floppyPath := none
  runOnce := false
  nics := nics
  disks := disks

/-- A bootable LUN on a bus. -/
def plainDisk (id : Uuid) (interface : DiskInterface) : Disk where
  id := id
  name := ""
  shareable := false
  propagateErrors := false
  scsiPassthrough := false
  sgio := none
  attachment := ⟨interface, true, false⟩
  backend := .lun ⟨"lun"⟩

/-- A fixture of a machine with stored devices, and no other entity. -/
def plain (vm : VirtualMachine) (devices : List Device) : Fixture where
  vm := vm
  host := default
  params := .none
  payload := none
  isVolatile := false
  inventory := { Inventory.empty with devices }

end Fixture

end VmDescriptor
