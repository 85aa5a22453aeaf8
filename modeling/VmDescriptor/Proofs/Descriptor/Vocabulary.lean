import VmDescriptor.Descriptor.Domain
import VmDescriptor.Proofs.Outcomes
import VmDescriptor.Proofs.Xml.Elements

/-!
The vocabulary of a descriptor: which elements each part of it may contain, at any depth.

Names that come from a request occur in the metadata alone, where they are qualified. No
element has two attributes with one key; an address keeps its own keys distinct.
-/

namespace VmDescriptor.Descriptor

open Program Xml

variable {given : Answers}

/-- The names outside the devices and the metadata. -/
def sectionVocabulary : List String :=
  ["name", "uuid", "memory", "currentMemory", "iothreads", "maxMemory", "vcpu", "sysinfo",
    "system", "entry", "clock", "timer", "on_reboot", "features", "acpi", "hyperv", "relaxed",
    "vapic", "spinlocks", "cpu", "model", "topology", "numa", "cell", "cputune", "vcpupin",
    "numatune", "memnode", "os", "type", "initrd", "kernel", "cmdline", "smbios", "bootmenu",
    "bios"]

/-- The names of the metadata: custom properties give names of their own. -/
def MetadataName (name : String) : Prop :=
  name ∈ ["metadata", "minGuaranteedMemoryMb", "clusterVersion"] ∨
    (∃ rest, name = Writer.qualified tuneNamespace.1 rest) ∨ ∃ rest, name = vmName rest

/-- The names of the devices other than interfaces and disks. -/
def peripheralVocabulary : List String :=
  ["input", "channel", "target", "source", "emulator", "memballoon", "smartcard", "watchdog",
    "video", "model", "controller", "graphics", "listen", "filetransfer", "clipboard", "sound",
    "rng", "rate", "backend", "console", "serial", "redirdev", "hostdev", "adapter", "address",
    "lease", "key", "lockspace"]

/-- The names inside an interface other than its boot position. -/
def interfaceParts : List String :=
  ["model", "link", "source", "driver", "vlan", "tag", "address", "mac", "filterref",
    "parameter", "tune", "sndbuf", "bandwidth", "inbound", "outbound"]

/-- The names of interfaces. -/
def interfaceVocabulary : List String :=
  "interface" :: "boot" :: interfaceParts

/-- The names inside a disk other than its target and boot position. -/
def diskParts : List String :=
  ["source", "readonly", "address", "driver", "host", "serial", "shareable", "iotune", "auth",
    "secret"]

/-- The names inside a disk. -/
def diskContents : List String :=
  "target" :: "boot" :: diskParts

/-- The names of disks, CD-ROMs and floppies. -/
def diskVocabulary : List String :=
  "disk" :: diskContents

/-! ### Sections -/

lemma every_sizing {vm : VirtualMachine} {config : BuildConfig} {ns : List Node}
    (h : (sizing vm config).MayReturn given ns) :
    EveryIn (Regular (· ∈ sectionVocabulary)) ns := by
  simp only [sizing, mayReturn_bind, mayEnd_pure, Except.ok.injEq] at h
  obtain ⟨current, -, greatest, -, rfl⟩ := h
  simp +decide

lemma every_metadata (vm : VirtualMachine) : (metadata vm).Every (Regular MetadataName) := by
  have hvm (rest : String) : MetadataName (vmName rest) := .inr (.inr ⟨rest, rfl⟩)
  have htune (rest : String) : MetadataName (Writer.qualified tuneNamespace.1 rest) :=
    .inr (.inl ⟨rest, rfl⟩)
  have hplain : ∀ name ∈ ["metadata", "minGuaranteedMemoryMb", "clusterVersion"],
      MetadataName name := fun _ => .inl
  simp only [List.forall_mem_cons] at hplain
  simp [metadata, hvm, htune, hplain]

lemma every_sysinfo (vm : VirtualMachine) :
    EveryIn (Regular (· ∈ sectionVocabulary)) (sysinfo vm) := by
  unfold sysinfo
  cases vm.arch.family <;> simp +decide

lemma every_clock (vm : VirtualMachine) (config : BuildConfig) :
    (clock vm config).Every (Regular (· ∈ sectionVocabulary)) := by
  unfold clock
  cases vm.arch.family <;> cases config.hyperv <;> simp +decide

lemma every_powerEvents (isVolatile : Bool) :
    EveryIn (Regular (· ∈ sectionVocabulary)) (powerEvents isVolatile) := by
  simp +decide [powerEvents]

lemma every_features (vm : VirtualMachine) (config : BuildConfig) :
    EveryIn (Regular (· ∈ sectionVocabulary)) (features vm config) := by
  unfold features
  cases vm.acpi <;> cases config.hyperv <;> simp +decide [flag]

lemma every_cpu {vm : VirtualMachine} {config : BuildConfig} {params : CreateParams} {n : Node}
    (h : (cpu vm config params).MayReturn given n) :
    n.Every (Regular (· ∈ sectionVocabulary)) := by
  simp only [cpu, mayReturn_bind, mayEnd_pure, Except.ok.injEq] at h
  obtain ⟨topologyNodes, htopology, numaNodes, hnuma, rfl⟩ := h
  have hmodel : ((cpuModel vm params).1.map Prod.fst).Nodup ∧
      EveryIn (Regular (· ∈ sectionVocabulary)) (cpuModel vm params).2 := by
    unfold cpuModel
    cases vm.arch.family
    · dsimp only
      split_ifs <;> simp +decide
    · simp +decide
  have htopology : EveryIn (Regular (· ∈ sectionVocabulary)) topologyNodes := by
    unfold topology at htopology
    split at htopology
    · simp only [mayReturn_bind, mayEnd_pure, Except.ok.injEq] at htopology
      obtain ⟨greatest, -, rfl⟩ := htopology
      simp +decide
    · cases htopology
      simp
  have hnuma : EveryIn (Regular (· ∈ sectionVocabulary)) numaNodes := by
    unfold numa at hnuma
    split at hnuma
    · cases hnuma
      simp
    · simp only [mayReturn_bind, mayEnd_pure, Except.ok.injEq] at hnuma
      obtain ⟨cells, hcells, rfl⟩ := hnuma
      have hcell : EveryIn (Regular (· ∈ sectionVocabulary)) cells := by
        intro n hn
        obtain ⟨node, -, hnode⟩ := exists_mem_of_mayReturn_mapM hcells hn
        simp only [numaCell, mayReturn_bind, mayEnd_pure, Except.ok.injEq] at hnode
        obtain ⟨memory, -, rfl⟩ := hnode
        simp +decide
      simpa +decide using hcell
  simp only [every_element, regular_element, everyIn_append]
  exact ⟨⟨by decide, hmodel.1⟩, ⟨hmodel.2, htopology⟩, hnuma⟩

lemma every_cpuTune (params : CreateParams) :
    EveryIn (Regular (· ∈ sectionVocabulary)) (cpuTune params) := by
  unfold cpuTune
  cases params.cpuPinning <;> simp +decide

lemma every_numaTune (params : CreateParams) :
    EveryIn (Regular (· ∈ sectionVocabulary)) (numaTune params) := by
  unfold numaTune
  split
  · simp
  · split
    · simp
    · simp +decide

lemma every_os (vm : VirtualMachine) (config : BuildConfig) (isSerial : Bool) :
    (os vm config isSerial).Every (Regular (· ∈ sectionVocabulary)) := by
  unfold os
  cases nonEmpty vm.kernel <;> simp +decide [flag]

/-! ### Parts with optional attributes -/

lemma keys_attributeIf (key : String) (value : Option String) :
    (attributeIf key value).map Prod.fst = (value.map fun _ => key).toList := by
  cases value <;> rfl

lemma keys_numberIf (key : String) (n : Option Nat) :
    (numberIf key n).map Prod.fst = (n.map fun _ => key).toList := by
  cases n <;> rfl

/-- Keys that may be missing from a list of distinct keys are distinct. -/
lemma nodup_keys_limits {q : StorageQos} {limits : List (String × Nat)}
    (h : q.limits? = some limits) : (limits.map Prod.fst).Nodup := by
  have hlimit (name : String) (value : Option Nat) :
      ((StorageQos.limit name value).map Prod.fst).Sublist [name] := by
    cases value <;> simp [StorageQos.limit]
  simp only [StorageQos.limits?, Option.bind_eq_bind, Option.bind_eq_some_iff, Option.pure_def,
    Option.some.injEq] at h
  obtain ⟨total, -, read, -, write, -, rfl⟩ := h
  have hkeys : (["total_bytes_sec"] ++ ["read_bytes_sec"] ++ ["write_bytes_sec"] ++
      ["total_iops_sec"] ++ ["read_iops_sec"] ++ ["write_iops_sec"]).Nodup := by decide
  simp only [List.map_append]
  exact hkeys.sublist <| ((((((hlimit _ _).append (hlimit _ _)).append (hlimit _ _)).append
    (hlimit _ _)).append (hlimit _ _)).append (hlimit _ _))

lemma every_addressNodes {V : String → Prop} (hV : V "address") (a : Address) :
    EveryIn (Regular V) (addressNodes a) := by
  simp [addressNodes, hV, a.distinct]

lemma every_bootNodes {V : String → Prop} (hV : V "boot") (position : Nat) :
    EveryIn (Regular V) (bootNodes position) := by
  simp [bootNodes, hV]

/-! ### Devices -/

lemma every_fixedDevices (vm : VirtualMachine) :
    EveryIn (Regular (· ∈ peripheralVocabulary)) (fixedDevices vm) := by
  unfold fixedDevices emulator input
  cases vm.arch.family <;> simp +decide [agentChannel, flag]

lemma every_placed {name : String} (hname : name ∈ peripheralVocabulary)
    {attributes : List (String × String)} (hkeys : (attributes.map Prod.fst).Nodup)
    (a : Address) : (placed name attributes a).Every (Regular (· ∈ peripheralVocabulary)) := by
  simp only [placed, every_element, regular_element]
  exact ⟨⟨hname, hkeys⟩, every_addressNodes (by decide) a⟩

lemma every_hostEnd (socket : Option String) :
    ((hostEnd socket).1.map Prod.fst).Nodup ∧
      EveryIn (Regular (· ∈ peripheralVocabulary)) (hostEnd socket).2 := by
  cases socket <;> simp +decide [hostEnd]

lemma every_console (vm : Uuid) (c : Console) :
    (console vm c).Every (Regular (· ∈ peripheralVocabulary)) := by
  have h := every_hostEnd (socket? vm c)
  simp only [console, every_element, regular_element, everyIn_append]
  exact ⟨⟨by decide, h.1⟩, h.2, by simp +decide⟩

lemma every_serial (vm : Uuid) (c : Console) :
    (serial vm c).Every (Regular (· ∈ peripheralVocabulary)) := by
  have h := every_hostEnd (socket? vm c)
  simp only [serial, every_element, regular_element, everyIn_append]
  exact ⟨⟨by decide, h.1⟩, h.2, by simp +decide [flag]⟩

lemma every_lease (vm : Uuid) (l : Lease) :
    (lease vm l).Every (Regular (· ∈ peripheralVocabulary)) := by
  unfold lease
  cases l.offset <;> cases l.path <;>
    simp +decide [keys_numberIf, keys_attributeIf]

lemma every_dependentDevices (vm : VirtualMachine) (cs : DeviceClasses) :
    EveryIn (Regular (· ∈ peripheralVocabulary)) (dependentDevices vm cs) := by
  simp +decide [dependentDevices, noBalloon, spiceChannel, flag, every_serial, every_lease]

lemma every_video (v : Video) (a : Address) :
    (video v a).Every (Regular (· ∈ peripheralVocabulary)) := by
  have ha := every_addressNodes (V := (· ∈ peripheralVocabulary)) (by decide) a
  unfold video
  cases v.ram <;> cases v.vgamem <;> simp +decide [keys_numberIf, ha]

lemma every_controller (c : Controller) (a : Address) :
    (controller c a).Every (Regular (· ∈ peripheralVocabulary)) := by
  refine every_placed (by decide) ?_ a
  cases c.model <;> cases c.index <;> cases c.ports <;>
    simp [keys_numberIf, keys_attributeIf]

lemma every_rng (r : Rng) : (rng r).Every (Regular (· ∈ peripheralVocabulary)) := by
  unfold rng
  cases r.bytes <;> cases r.period <;> simp +decide [keys_numberIf]

lemma every_listen (d : Display) (network : Network) :
    (listen d network).Every (Regular (· ∈ peripheralVocabulary)) := by
  unfold listen
  cases d.ip <;> simp +decide

lemma every_spiceOptions {vm : VirtualMachine} {config : BuildConfig} {ns : List Node}
    (h : (spiceOptions vm config).MayReturn given ns) :
    EveryIn (Regular (· ∈ peripheralVocabulary)) ns := by
  unfold spiceOptions at h
  cases hssl : config.settings.sslEnabled <;>
  · simp only [hssl, if_true, Bool.false_eq_true, if_false, mayReturn_bind, mayEnd_pure,
      Except.ok.injEq] at h
    obtain ⟨channels, -, rfl⟩ := h
    simp +decide [flag]

lemma every_display {vm : VirtualMachine} {config : BuildConfig} {d : Display}
    {network : Option Network} {n : Node}
    (h : (display vm config d network).MayReturn given n) :
    n.Every (Regular (· ∈ peripheralVocabulary)) := by
  unfold display at h
  cases htype : d.type with
  | spice =>
    simp only [htype, mayReturn_bind, mayEnd_pure, Except.ok.injEq] at h
    obtain ⟨options, hoptions, rfl⟩ := h
    have := every_spiceOptions hoptions
    cases network <;> simp +decide [ticketAttributes, every_listen, this]
  | vnc =>
    simp only [htype, mayEnd_pure, Except.ok.injEq] at h
    subst h
    cases network <;> simp +decide [ticketAttributes, every_listen]

lemma every_passthrough (type : String) (adapter : Option String) (source a : Address) :
    (passthrough type adapter source a).Every (Regular (· ∈ peripheralVocabulary)) := by
  have ha := every_addressNodes (V := (· ∈ peripheralVocabulary)) (by decide) a
  unfold passthrough
  cases adapter <;> simp +decide [flag, source.distinct, ha]

/-- A host device is left out, or passed through at the address of its capability. -/
lemma mayReturn_hostDevice {name : String} {placeholder : Bool} {found : Option HostDevice}
    {a : Address} {ns : List Node}
    (h : (hostDevice name placeholder found a).MayReturn given ns) :
    ns = [] ∨ ∃ (d : HostDevice) (type : String) (adapter : Option String) (source : Address),
      d.capability.sourceAddress? = some source ∧ ns = [passthrough type adapter source a] := by
  unfold hostDevice at h
  cases found with
  | none =>
    simp only [mayReturn_bind, mayEnd_pure, Except.ok.injEq] at h
    obtain ⟨-, -, rfl⟩ := h
    exact .inl rfl
  | some d =>
    dsimp only at h
    split at h
    next source _ hsource =>
      cases h
      split
      · exact .inl rfl
      · exact .inr ⟨d, _, _, source, hsource, rfl⟩
    next source _ hsource =>
      cases h
      exact .inr ⟨d, _, _, source, hsource, rfl⟩
    next source _ hsource =>
      cases h
      exact .inr ⟨d, _, _, source, hsource, rfl⟩
    next =>
      simp only [mayReturn_bind, mayEnd_pure, Except.ok.injEq] at h
      obtain ⟨-, -, rfl⟩ := h
      exact .inl rfl

lemma every_hostDevice {name : String} {placeholder : Bool} {found : Option HostDevice}
    {a : Address} {ns : List Node}
    (h : (hostDevice name placeholder found a).MayReturn given ns) :
    EveryIn (Regular (· ∈ peripheralVocabulary)) ns := by
  rcases mayReturn_hostDevice h with rfl | ⟨d, type, adapter, source, -, rfl⟩
  · exact everyIn_nil
  · exact List.forall_mem_singleton.mpr (every_passthrough _ _ _ _)

/-- The elements of a peripheral keep to the vocabulary. -/
lemma every_peripheral {vm : VirtualMachine} {host : Uuid} {config : BuildConfig}
    {p : Peripheral} {ns : List Node}
    (h : (peripheral vm host config p).MayReturn given ns) :
    EveryIn (Regular (· ∈ peripheralVocabulary)) ns := by
  unfold peripheral at h
  cases hkind : p.kind with
  | graphics d =>
    simp only [hkind, mayReturn_bind, mayEnd_pure, Except.ok.injEq] at h
    obtain ⟨network, -, n, hn, rfl⟩ := h
    simpa using every_display hn
  | hostDevice name placeholder =>
    simp only [hkind, mayReturn_bind] at h
    obtain ⟨devices, -, h⟩ := h
    exact every_hostDevice h
  | _ =>
    simp only [hkind, mayEnd_pure, Except.ok.injEq] at h
    subst h
    simp +decide [every_placed, every_video, every_controller, every_rng, every_console]

/-! ### Interfaces -/

lemma every_bridgeNodes {vm : VirtualMachine} {nic : Nic} {backing : Option NicBacking}
    {ns : List Node} (h : (bridgeNodes vm nic backing).MayReturn given ns) :
    EveryIn (Regular (· ∈ interfaceParts)) ns := by
  simp only [bridgeNodes, mayReturn_bind, mayEnd_pure, Except.ok.injEq] at h
  obtain ⟨driver, -, rfl⟩ := h
  have hdriver (queues : Option String) :
      EveryIn (Regular (· ∈ interfaceParts)) (driverNodes queues driver) := by
    cases queues <;> cases driver <;> simp +decide [driverNodes, flag]
  simp +decide [flag, hdriver]

lemma every_hostdevNodes (backing : Option NicBacking) :
    EveryIn (Regular (· ∈ interfaceParts)) (hostdevNodes backing) := by
  simp +decide [hostdevNodes, flag]

/-- An interface carries its boot position between other parts. -/
lemma mayReturn_interface {vm : VirtualMachine} {d : InterfaceDevice} {nic : Nic}
    {backing : Option NicBacking} {position : Nat} {n : Node}
    (h : (interface vm d nic backing position).MayReturn given n) :
    ∃ attributes before after, (attributes.map Prod.fst).Nodup ∧
      EveryIn (Regular (· ∈ interfaceParts)) before ∧
      EveryIn (Regular (· ∈ interfaceParts)) after ∧
      n = .element "interface" attributes (before ++ bootNodes position ++ after) := by
  have hbefore {first : List Node} (hfirst : EveryIn (Regular (· ∈ interfaceParts)) first) :
      EveryIn (Regular (· ∈ interfaceParts)) (first ++ addressNodes d.device.address) :=
    everyIn_append.mpr ⟨hfirst, every_addressNodes (by decide) d.device.address⟩
  have hafter : EveryIn (Regular (· ∈ interfaceParts)) ([flag "mac" "address" nic.mac] ++
      filterNodes backing ++ sendBuffer vm ++ [bandwidth backing]) := by
    simp +decide [flag, filterNodes, sendBuffer, bandwidth, limitNode]
  unfold interface at h
  cases hkind : d.kind with
  | bridge =>
    simp only [hkind, mayReturn_bind, mayEnd_pure, Except.ok.injEq] at h
    obtain ⟨nodes, hnodes, -, rfl, rfl⟩ := h
    exact ⟨[("type", "bridge")], _, _, by simp, hbefore (every_bridgeNodes hnodes), hafter,
      by simp only [List.append_assoc]⟩
  | hostdev =>
    simp only [hkind, mayReturn_bind, mayEnd_pure, Except.ok.injEq] at h
    obtain ⟨-, rfl, rfl⟩ := h
    exact ⟨[("type", "hostdev"), ("managed", "no")], _, _, by simp,
      hbefore (every_hostdevNodes backing), hafter, by simp only [List.append_assoc]⟩

lemma every_interface {vm : VirtualMachine} {d : InterfaceDevice} {nic : Nic}
    {backing : Option NicBacking} {position : Nat} {n : Node}
    (h : (interface vm d nic backing position).MayReturn given n) :
    n.Every (Regular (· ∈ interfaceVocabulary)) := by
  obtain ⟨attributes, before, after, hkeys, hbefore, hafter, rfl⟩ := mayReturn_interface h
  have hparts : ∀ name ∈ interfaceParts, name ∈ interfaceVocabulary := by decide
  simp only [every_element, regular_element, everyIn_append]
  exact ⟨⟨by decide, hkeys⟩, ⟨hbefore.imp hparts, every_bootNodes (by decide) position⟩,
    hafter.imp hparts⟩

/-- The elements of an interface keep to the vocabulary. -/
lemma every_interfaceNodes {vm : VirtualMachine} {order : BootOrder} {d : InterfaceDevice}
    {ns : List Node} (h : (interfaceNodes vm order d).MayReturn given ns) :
    EveryIn (Regular (· ∈ interfaceVocabulary)) ns := by
  unfold interfaceNodes at h
  split at h
  · simp only [mayReturn_bind, mayEnd_pure, Except.ok.injEq] at h
    obtain ⟨-, -, rfl⟩ := h
    exact everyIn_nil
  · simp only [mayReturn_bind, mayEnd_pure, Except.ok.injEq] at h
    obtain ⟨backing, -, n, hn, rfl⟩ := h
    simpa using every_interface hn

/-! ### Disks -/

lemma every_target (bus : TargetBus) (index : Nat) :
    (target bus index).Every (Regular (· ∈ diskVocabulary)) := by
  simp +decide [target]

lemma every_removable {target : Node}
    (htarget : target.Every (Regular (· ∈ diskVocabulary))) (device source : String)
    {rest : List Node} (hrest : EveryIn (Regular (· ∈ diskVocabulary)) rest) :
    (removable device source target rest).Every (Regular (· ∈ diskVocabulary)) := by
  simp +decide [removable, htarget, hrest]

lemma every_payloadCdrom (cd : CdInterface) (index : Nat) :
    (payloadCdrom cd index).Every (Regular (· ∈ diskVocabulary)) := by
  refine every_removable (every_target _ _) _ _ ?_
  split
  · exact every_addressNodes (by decide) _
  · exact everyIn_nil

lemma every_userCdrom (vm : VirtualMachine) (cd : CdInterface) (index : Nat)
    (device : Option Device) (order : BootOrder) :
    (userCdrom vm cd index device order).Every (Regular (· ∈ diskVocabulary)) := by
  refine every_removable (every_target _ _) _ _ ?_
  split
  · rw [everyIn_append]
    exact ⟨every_addressNodes (by decide) _, every_bootNodes (by decide) _⟩
  · exact everyIn_nil

lemma every_floppy (vm : VirtualMachine) (d : Device) :
    (floppy vm d).Every (Regular (· ∈ diskVocabulary)) :=
  every_removable (every_target _ _) _ _ (every_addressNodes (by decide) _)

lemma nodup_keys_diskAttributes (d : PlacedDisk) :
    ((diskAttributes d).map Prod.fst).Nodup := by
  unfold diskAttributes
  cases d.disk.attachment.interface with
  | virtioScsi =>
    by_cases hpass : (d.disk.backend.isLun && d.disk.scsiPassthrough) = true
    · simp only [hpass, if_true]
      cases d.disk.sgio <;> simp [keys_attributeIf]
    · simp [hpass]
  | _ => simp

lemma every_diskTarget (d : PlacedDisk) :
    (diskTarget d).Every (Regular (· ∈ diskVocabulary)) := by
  unfold diskTarget
  split
  · exact every_target _ _
  · simp +decide

lemma every_diskSource (d : PlacedDisk) :
    (diskSource d).Every (Regular (· ∈ diskParts)) := by
  unfold diskSource
  split
  case h_1 image _ =>
    have hkeys (key : String) (path : Option String) :
        ((attributeIf key path).map Prod.fst).Nodup := by
      cases path <;> simp [keys_attributeIf]
    simp +decide [hkeys]
  all_goals simp +decide

lemma every_diskDriver {config : BuildConfig} {d : PlacedDisk} {n : Node}
    (h : (diskDriver config d).MayReturn given n) :
    n.Every (Regular (· ∈ diskParts)) := by
  simp only [diskDriver, mayReturn_bind, mayEnd_pure, Except.ok.injEq] at h
  obtain ⟨thread, -, rfl⟩ := h
  unfold backendAttributes
  cases thread <;> cases d.disk.backend <;>
    cases config.passDiscard && d.disk.attachment.passDiscard <;>
    simp +decide [keys_attributeIf]

lemma every_diskPolicy {d : PlacedDisk} {ns : List Node}
    (h : (diskPolicy d).MayReturn given ns) :
    EveryIn (Regular (· ∈ diskParts)) ns := by
  unfold diskPolicy at h
  split at h
  · simp only [mayReturn_bind, mayReturn_exact, mayEnd_pure, Except.ok.injEq] at h
    obtain ⟨limits, hlimits, rfl⟩ := h
    have := nodup_keys_limits hlimits
    simp +decide [Function.comp_def, this]
  · cases h
    simp +decide
  · cases h
    exact everyIn_nil

/-- A disk begins with its target and carries its boot position between other parts. -/
lemma mayReturn_disk {config : BuildConfig} {d : PlacedDisk} {n : Node}
    (h : (disk config d).MayReturn given n) :
    ∃ before after, EveryIn (Regular (· ∈ diskParts)) before ∧
      EveryIn (Regular (· ∈ diskParts)) after ∧
      n = .element "disk" (diskAttributes d)
        (diskTarget d :: (before ++ bootNodes d.position ++ after)) := by
  simp only [disk, mayReturn_bind, mayEnd_pure, Except.ok.injEq] at h
  obtain ⟨driver, hdriver, policy, hpolicy, rfl⟩ := h
  have haddress := every_addressNodes (V := (· ∈ diskParts)) (by decide) d.device.address
  refine ⟨[diskSource d, driver] ++ addressNodes d.device.address,
    (if d.disk.backend.isLun then [] else [.withText "serial" d.disk.id.text]) ++
      (if d.device.readOnly then [.leaf "readonly" []] else []) ++
      (if d.device.snapshot.isNone && d.disk.shareable then [.leaf "shareable" []] else []) ++
      policy, ?_, ?_, ?_⟩
  · simp [every_diskSource, every_diskDriver hdriver, haddress]
  · simp +decide [every_diskPolicy hpolicy]
  · simp only [List.append_assoc, List.cons_append, List.nil_append]

lemma every_disk {config : BuildConfig} {d : PlacedDisk} {n : Node}
    (h : (disk config d).MayReturn given n) : n.Every (Regular (· ∈ diskVocabulary)) := by
  obtain ⟨before, after, hbefore, hafter, rfl⟩ := mayReturn_disk h
  have hparts : ∀ name ∈ diskParts, name ∈ diskVocabulary := by decide
  simp only [every_element, regular_element, everyIn_cons, everyIn_append]
  exact ⟨⟨by decide, nodup_keys_diskAttributes d⟩, every_diskTarget d,
    ⟨hbefore.imp hparts, every_bootNodes (by decide) d.position⟩, hafter.imp hparts⟩

/-- The elements of the disks keep to the vocabulary. -/
lemma every_disks {vm : VirtualMachine} {config : BuildConfig} {devices : List Device}
    {order : BootOrder} {ix : DiskIndices} {ns : List Node}
    (h : (disks vm config devices order ix).MayReturn given ns) :
    EveryIn (Regular (· ∈ diskVocabulary)) ns := by
  intro n hn
  obtain ⟨x, -, hx⟩ := exists_mem_of_mayReturn_mapM h hn
  simp only [mayReturn_bind] at hx
  obtain ⟨storage, -, hx⟩ := hx
  exact every_disk hx

end VmDescriptor.Descriptor
