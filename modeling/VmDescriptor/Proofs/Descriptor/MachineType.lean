import VmDescriptor.Proofs.BuildConfig
import VmDescriptor.Proofs.Descriptor.Sections

/-!
The machine type in a descriptor, and the bus of its CD-ROMs.
-/

namespace VmDescriptor.Descriptor

open Program Xml

/-- The machine types in the `os` sections of a domain element. -/
def machineTypes (root : Node) : List (Option String) :=
  (root.children.filter (·.name = some "os")).flatMap fun os =>
    (os.children.filter (·.name = some "type")).map (·.attribute? "machine")

lemma filter_type_os (vm : VirtualMachine) (config : BuildConfig) (serial : Bool) :
    ((os vm config serial).children.filter (·.name = some "type")).map
      (·.attribute? "machine") = [some config.emulatedMachine] := by
  unfold os
  cases nonEmpty vm.kernel <;> cases nonEmpty vm.initrd <;> cases nonEmpty vm.kernelParameters <;>
    cases vm.bootMenu <;> cases serial <;> cases vm.arch.family <;> rfl

/-- The `os` section names the machine type of the configuration, once. -/
lemma machineTypes_of_mayReturn {given : Answers} {fresh : FreshIds} {req : Request}
    {config : BuildConfig} {root : Node} (h : (domain fresh req config).MayReturn given root) :
    machineTypes root = [some config.emulatedMachine] := by
  have hdistinct := (wellShaped_of_mayReturn h).distinct
  obtain ⟨sizingNodes, -, cpuNode, -, stored, -, devices, -, rfl⟩ := mayReturn_domain.mp h
  have hos : os req.vm config (classified fresh req config stored).serialConsole?.isSome ∈
      sections req config sizingNodes cpuNode devices
        (classified fresh req config stored).serialConsole?.isSome :=
    List.mem_append_right _ (List.mem_singleton_self _)
  rw [machineTypes, filter_name_eq hdistinct hos rfl, List.flatMap_singleton, filter_type_os]

/-! ### The bus of CD-ROMs -/

/-- The buses of the CD-ROMs in a tree. -/
def cdromBuses (root : Node) : List (Option String) :=
  ((elementsNamed "disk" [root]).filter (·.attribute? "device" = some "cdrom")).flatMap fun disk =>
    (targets disk).map (·.attribute? "bus")

/-- A disk is no CD-ROM. -/
lemma device_diskAttributes (d : PlacedDisk) (h : d.device.subtype = "disk") :
    (diskAttributes d).lookup "device" ≠ some "cdrom" := by
  unfold diskAttributes
  cases d.disk.attachment.interface with
  | spaprVscsi => exact nofun
  | virtioScsi =>
    by_cases hpass : (d.disk.backend.isLun && d.disk.scsiPassthrough) = true
    · simp only [hpass, if_true]
      exact fun h => absurd (Option.some.inj h) (by decide)
    · simp only [hpass, Bool.false_eq_true, if_false, h]
      exact fun h => absurd (Option.some.inj h) (by decide)
  | _ =>
    rw [h]
    exact fun h => absurd (Option.some.inj h) (by decide)

end VmDescriptor.Descriptor

namespace VmDescriptor.Fixture

open Descriptor Xml

variable {f : Fixture} {fresh : FreshIds} {config : EngineConfig} {root : Node}

/-- All CD-ROMs are on the bus of the configuration. -/
lemma cdromBuses_eq (h : f.root fresh config = .ok root) :
    ∀ bus ∈ cdromBuses root,
      bus = some (TargetBus.ofCd (BuildConfig.resolve config f.vm).cdInterface).name := by
  obtain ⟨diskNodes, hdescribes, hdisk⟩ := exists_diskNodes h
  intro bus hbus
  obtain ⟨disk, hmem, hbus⟩ := List.mem_flatMap.mp hbus
  obtain ⟨hmem, hcdrom⟩ := List.mem_filter.mp hmem
  rw [decide_eq_true_iff] at hcdrom
  rw [← cd_classes f fresh config]
  rw [hdisk, List.mem_append] at hmem
  rcases hmem with hmem | hmem
  · rcases mem_removableNodes hmem with rfl | rfl | ⟨d, rfl⟩
    · rw [targets_payloadCdrom] at hbus
      exact List.mem_singleton.mp hbus
    · rw [targets_userCdrom] at hbus
      exact List.mem_singleton.mp hbus
    · exact absurd (Option.some.inj hcdrom) (by decide)
  · obtain ⟨x, hx, block, qos, hdescribed⟩ := exists_mem_of_forall₂ hdescribes hmem
    obtain ⟨before, after, -, -, rfl⟩ := mayReturn_disk hdescribed
    have hsubtype := subtype_of_mem_disks (mem_disks_of_mem_describedDisks hx)
    exact absurd hcdrom (device_diskAttributes _ hsubtype)

/-- **The machine that is started**: its type is that of the resolved configuration, and its
CD-ROMs are on the resolved bus. The chipset and the bus are those of this type just when the
machine names its type or the default type has the chipset of machines that name none; the bus
also when both chipsets have the same. -/
theorem machine_coherent_iff (config : EngineConfig) (vm : VirtualMachine) :
    ((BuildConfig.resolve config vm).chipset = (BuildConfig.resolve config vm).startedChipset ↔
      BuildConfig.NamesChipset config vm) ∧
    ((BuildConfig.resolve config vm).cdInterface =
        config.cdInterface vm.os (BuildConfig.resolve config vm).startedChipset ↔
      BuildConfig.NamesChipset config vm ∨
        config.cdInterface vm.os .i440fx = config.cdInterface vm.os .q35) ∧
    ∀ (f : Fixture) (fresh : FreshIds) (text : String), f.vm = vm →
      (f.build fresh config).result = .ok text →
        ∃ root, f.root fresh config = .ok root ∧ root.document = .ok text ∧
          machineTypes root = [some (BuildConfig.resolve config vm).emulatedMachine] ∧
          ∀ bus ∈ cdromBuses root,
            bus = some (TargetBus.ofCd (BuildConfig.resolve config vm).cdInterface).name := by
  refine ⟨BuildConfig.chipset_resolve_iff, BuildConfig.cdInterface_resolve_iff, ?_⟩
  rintro f fresh text rfl h
  obtain ⟨root, hroot, hdocument⟩ := Request.build_ok_iff.mp h
  have htypes := machineTypes_of_mayReturn (Request.mayReturn_root hroot)
  exact ⟨root, hroot, hdocument, htypes, cdromBuses_eq hroot⟩

/-- A configuration whose default machine type has the chipset Q35. -/
def q35Config : EngineConfig :=
  { EngineConfig.empty with emulatedMachines := SortedMap.empty.insert "x86_64" "pc-q35" }

/-- A machine that names no type, with a CD-ROM. -/
def untyped : Fixture :=
  plain (plainMachine none [] []) [.plain ⟨⟨1⟩, default⟩ .disk "cdrom"]

/-- The machine that names no type is started as Q35, with its CD-ROM on IDE and not on SATA. -/
theorem machine_default_incoherent :
    ∃ text root, (untyped.build (.constant default) q35Config).result = .ok text ∧
      untyped.root (.constant default) q35Config = .ok root ∧
      root.document = .ok text ∧ machineTypes root = [some "pc-q35"] ∧
      cdromBuses root = [some "ide"] ∧
      (BuildConfig.resolve q35Config untyped.vm).chipset ≠
        (BuildConfig.resolve q35Config untyped.vm).startedChipset ∧
      q35Config.cdInterface untyped.vm.os
        (BuildConfig.resolve q35Config untyped.vm).startedChipset = .sata := by
  obtain ⟨hchipset, -, hbuild⟩ := machine_coherent_iff q35Config untyped.vm
  obtain ⟨text, h⟩ := Program.exists_ok
    (r := (untyped.build (.constant default) q35Config).result) (by decide +kernel)
  obtain ⟨root, hroot, hdocument, htypes, -⟩ := hbuild _ _ text rfl h
  have hnames : ¬ BuildConfig.NamesChipset q35Config untyped.vm :=
    fun hnames => absurd (hnames rfl) (by decide +kernel)
  have hmachine : (BuildConfig.resolve q35Config untyped.vm).emulatedMachine = "pc-q35" := by
    decide +kernel
  have hbuses : cdromBuses root = [some "ide"] :=
    eq_of_map_eq_ok (f := cdromBuses) hroot (by decide +kernel)
  rw [hmachine] at htypes
  exact ⟨text, root, h, hroot, hdocument, htypes, hbuses, mt hchipset.mp hnames,
    by decide +kernel⟩

end VmDescriptor.Fixture
