import VmDescriptor.Proofs.Descriptor.Overflow
import VmDescriptor.Proofs.Descriptor.Sections

/-!
Sections that depend on each other.

Whether there is a serial device, a SPICE channel or a balloon that stands for none, and whether
the firmware uses the serial console, is decided apart from the consoles, displays and balloons.
The document shows them in agreement: all go by the devices that are described.
-/

namespace VmDescriptor

open Program Xml

/-! ### Elements by path -/

/-- The children of an element with a name. -/
def Xml.Node.childrenNamed (n : Node) (name : String) : List Node :=
  n.children.filter (·.name = some name)

/-- The elements with a name in those children of an element that have another name. -/
def Xml.Node.under (n : Node) (outer inner : String) : List Node :=
  (n.childrenNamed outer).flatMap (·.childrenNamed inner)

namespace Descriptor

variable {given : Answers}

/-! ### Nodes by name -/

/-- Nodes that share a name are found by it alone. -/
lemma filter_name_of_forall {ns : List Node} {name : String}
    (h : ∀ n ∈ ns, n.name = some name) (name' : String) :
    ns.filter (·.name = some name') = if name = name' then ns else [] := by
  split
  next heq => exact List.filter_eq_self.mpr fun n hn => decide_eq_true (heq ▸ h n hn)
  next hne =>
    refine List.filter_eq_nil_iff.mpr fun n hn hname => ?_
    exact hne (Option.some.inj ((h n hn).symm.trans (of_decide_eq_true hname)))

/-- A name that no element has, at any depth, is not found. -/
lemma filter_name_of_everyIn {ns : List Node} {V : String → Prop} {name : String}
    (h : EveryIn (Regular V) ns) (hname : ¬ V name) : ns.filter (·.name = some name) = [] := by
  refine List.filter_eq_nil_iff.mpr fun n hn hnname => ?_
  cases n with
  | text s => exact absurd (of_decide_eq_true hnname) nofun
  | element name' attributes children =>
    obtain rfl : name' = name := Option.some.inj (of_decide_eq_true hnname)
    exact hname (regular_element.mp (every_element.mp (h _ hn)).1).1

/-! ### The elements of a peripheral -/

lemma mayReturn_display {vm : VirtualMachine} {config : BuildConfig} {d : Display}
    {network : Option Network} {n : Node} (h : (display vm config d network).MayReturn given n) :
    n.name = some "graphics" ∧ n.attribute? "type" = some d.type.name := by
  unfold display at h
  cases htype : d.type with
  | spice =>
    simp only [htype, mayReturn_bind, mayEnd_pure, Except.ok.injEq] at h
    obtain ⟨options, -, rfl⟩ := h
    exact ⟨rfl, rfl⟩
  | vnc =>
    simp only [htype, mayEnd_pure, Except.ok.injEq] at h
    subst h
    exact ⟨rfl, rfl⟩

lemma name_of_mayReturn_hostDevice {name : String} {placeholder : Bool}
    {found : Option HostDevice} {a : Address} {ns : List Node}
    (h : (hostDevice name placeholder found a).MayReturn given ns) :
    ∀ n ∈ ns, n.name = some "hostdev" := by
  rcases mayReturn_hostDevice h with rfl | ⟨d, type, adapter, source, -, rfl⟩
  · exact List.forall_mem_nil _
  · exact List.forall_mem_singleton.mpr rfl

/-- The name of the elements of a peripheral. -/
def elementName : PeripheralKind → String
  | .balloon _ => "memballoon"
  | .smartcard .. => "smartcard"
  | .watchdog .. => "watchdog"
  | .video _ => "video"
  | .controller _ => "controller"
  | .graphics _ => "graphics"
  | .sound _ => "sound"
  | .rng _ => "rng"
  | .console _ => "console"
  | .redirection => "redirdev"
  | .hostDevice .. => "hostdev"

section

variable {vm : VirtualMachine} {host : Uuid} {config : BuildConfig} {p : Peripheral}
  {ns : List Node}

lemma name_of_mayReturn_peripheral (h : (peripheral vm host config p).MayReturn given ns) :
    ∀ n ∈ ns, n.name = some (elementName p.kind) := by
  unfold peripheral at h
  cases hkind : p.kind with
  | graphics d =>
    simp only [hkind, mayReturn_bind, mayEnd_pure, Except.ok.injEq] at h
    obtain ⟨network, -, n, hn, rfl⟩ := h
    rw [List.forall_mem_singleton]
    exact (mayReturn_display hn).1
  | hostDevice name placeholder =>
    simp only [hkind, mayReturn_bind] at h
    obtain ⟨devices, -, h⟩ := h
    exact name_of_mayReturn_hostDevice h
  | _ =>
    simp only [hkind, mayEnd_pure, Except.ok.injEq] at h
    subst h
    rw [List.forall_mem_singleton]
    rfl

lemma filter_name_peripheral (h : (peripheral vm host config p).MayReturn given ns)
    (name : String) :
    ns.filter (·.name = some name) = if elementName p.kind = name then ns else [] :=
  filter_name_of_forall (name_of_mayReturn_peripheral h) name

/-- A peripheral is described by a console if it is one. -/
lemma filter_console_peripheral (h : (peripheral vm host config p).MayReturn given ns) :
    ns.filter (·.name = some "console") =
      (DeviceClasses.consoleOf? p).toList.map (console vm.id) := by
  rw [filter_name_peripheral h, DeviceClasses.consoleOf?]
  cases hkind : p.kind with
  | console c =>
    simp only [peripheral, hkind, mayEnd_pure, Except.ok.injEq] at h
    subst h
    rfl
  | _ => exact if_neg (by simp [elementName])

/-- The element of a memory balloon. -/
def balloon (b : String × Address) : Node :=
  .element "memballoon" [("model", b.1)] (addressNodes b.2)

/-- A peripheral is described by a memory balloon if it is one. -/
lemma filter_memballoon_peripheral (h : (peripheral vm host config p).MayReturn given ns) :
    ns.filter (·.name = some "memballoon") =
      (DeviceClasses.balloonOf? p).toList.map balloon := by
  rw [filter_name_peripheral h, DeviceClasses.balloonOf?]
  cases hkind : p.kind with
  | balloon model =>
    simp only [peripheral, hkind, mayEnd_pure, Except.ok.injEq] at h
    subst h
    rfl
  | _ => exact if_neg (by simp [elementName])

/-- A peripheral is described by a video adapter if it is one. -/
lemma filter_video_peripheral (h : (peripheral vm host config p).MayReturn given ns) :
    ns.filter (·.name = some "video") =
      (DeviceClasses.videoOf? p).toList.map fun v => video v.1 v.2 := by
  rw [filter_name_peripheral h, DeviceClasses.videoOf?]
  cases hkind : p.kind with
  | video v =>
    simp only [peripheral, hkind, mayEnd_pure, Except.ok.injEq] at h
    subst h
    rfl
  | _ => exact if_neg (by simp [elementName])

/-- A peripheral is described by an element of graphics if it is a display. -/
lemma types_graphics_peripheral (h : (peripheral vm host config p).MayReturn given ns) :
    (ns.filter (·.name = some "graphics")).map (·.attribute? "type") =
      (DeviceClasses.displayOf? p).toList.map (some ·.type.name) := by
  rw [filter_name_peripheral h, DeviceClasses.displayOf?]
  cases hkind : p.kind with
  | graphics d =>
    simp only [peripheral, hkind, mayReturn_bind, mayEnd_pure, Except.ok.injEq] at h
    obtain ⟨network, -, n, hn, rfl⟩ := h
    exact congrArg (fun type => [type]) (mayReturn_display hn).2
  | _ => rw [if_neg (by simp [elementName]), List.map_nil]; rfl

lemma filter_name_peripheral_of_ne (h : (peripheral vm host config p).MayReturn given ns)
    {name : String} (hname : ∀ kind, elementName kind ≠ name) :
    ns.filter (·.name = some name) = [] := by
  rw [filter_name_peripheral h, if_neg (hname p.kind)]

end

/-- The element of the channel to the SPICE agent. -/
def spiceAgent : Node :=
  .element "channel" [("type", "spicevmc")]
    [.element "target" [("type", "virtio"), ("name", "com.redhat.spice.0")] []]

/-! ### The elements of the devices -/

section

variable {req : Request} {config : BuildConfig} {cs : DeviceClasses} {devices : List Node}

lemma filter_name_fixedDevices (vm : VirtualMachine) (name : String) :
    (fixedDevices vm).filter (·.name = some name) =
      (if "input" = name then [input vm] else []) ++
        (if "channel" = name then agentChannels.map (agentChannel vm.id) else []) ++
        (if "emulator" = name then emulator vm else []) := by
  have hinput : ∀ n ∈ [input vm], n.name = some "input" := by
    rw [List.forall_mem_singleton]
    rfl
  have hchannel : ∀ n ∈ agentChannels.map (agentChannel vm.id), n.name = some "channel" := by
    rw [List.forall_mem_map]
    exact fun _ _ => rfl
  have hemulator : ∀ n ∈ emulator vm, n.name = some "emulator" := by
    unfold emulator
    cases vm.arch.family
    · exact List.forall_mem_nil _
    · rw [List.forall_mem_singleton]
      rfl
  rw [fixedDevices, List.filter_append, List.filter_append, filter_name_of_forall hinput,
    filter_name_of_forall hchannel, filter_name_of_forall hemulator]

lemma filter_name_dependentDevices (vm : VirtualMachine) (cs : DeviceClasses) (name : String) :
    (dependentDevices vm cs).filter (·.name = some name) =
      (if "memballoon" = name then if cs.hasBalloon then [] else [noBalloon] else []) ++
        (if "serial" = name then cs.serialConsole?.toList.map (serial vm.id) else []) ++
        (if "lease" = name then vm.lease.toList.map (lease vm.id) else []) ++
        (if "channel" = name then if cs.hasSpice then [spiceChannel] else [] else []) := by
  have hballoon : ∀ n ∈ if cs.hasBalloon then [] else [noBalloon],
      n.name = some "memballoon" := by
    split
    · exact List.forall_mem_nil _
    · rw [List.forall_mem_singleton]
      rfl
  have hserial : ∀ n ∈ cs.serialConsole?.toList.map (serial vm.id), n.name = some "serial" := by
    rw [List.forall_mem_map]
    exact fun _ _ => rfl
  have hlease : ∀ n ∈ vm.lease.toList.map (lease vm.id), n.name = some "lease" := by
    rw [List.forall_mem_map]
    exact fun _ _ => rfl
  have hchannel : ∀ n ∈ if cs.hasSpice then [spiceChannel] else [],
      n.name = some "channel" := by
    split
    · rw [List.forall_mem_singleton]
      rfl
    · exact List.forall_mem_nil _
  rw [dependentDevices, List.filter_append, List.filter_append, List.filter_append,
    filter_name_of_forall hballoon, filter_name_of_forall hserial, filter_name_of_forall hlease,
    filter_name_of_forall hchannel]

/-- The elements before the interfaces, by name. -/
lemma exists_peripherals (h : (deviceNodes req config cs).MayReturn given devices) :
    ∃ peripherals,
      List.Forall₂ (fun p ns => (peripheral req.vm req.host config p).MayReturn given ns)
        cs.peripherals peripherals ∧
      ∀ name ∉ "disk" :: interfaceVocabulary, devices.filter (·.name = some name) =
        (fixedDevices req.vm).filter (·.name = some name) ++
          peripherals.flatMap (·.filter (·.name = some name)) ++
          (dependentDevices req.vm cs).filter (·.name = some name) := by
  obtain ⟨peripherals, hperipherals, interfaces, hinterfaces, diskNodes, hdisks, rfl⟩ :=
    mayReturn_deviceNodes.mp h
  refine ⟨peripherals, mayReturn_mapM.mp hperipherals, fun name hname => ?_⟩
  rw [List.mem_cons, not_or] at hname
  have hnodisk {ns : List Node} (hns : ∀ n ∈ ns, n.name = some "disk") :
      ns.filter (·.name = some name) = [] := by
    rw [filter_name_of_forall hns, if_neg (Ne.symm hname.1)]
  have hremovable : ∀ n ∈ removableNodes req.vm cs, n.name = some "disk" := by
    intro n hn
    rcases mem_removableNodes hn with rfl | rfl | ⟨d, rfl⟩ <;> rfl
  have hdisks : ∀ n ∈ diskNodes, n.name = some "disk" := by
    intro n hn
    obtain ⟨x, -, block, qos, hx⟩ := exists_mem_of_forall₂ (describes_of_mayReturn_disks hdisks) hn
    obtain ⟨before, after, -, -, rfl⟩ := mayReturn_disk hx
    rfl
  simp only [List.filter_append, filter_name_of_everyIn (every_interfaces hinterfaces) hname.2,
    hnodisk hremovable, hnodisk hdisks, List.append_nil, List.filter_flatten, List.flatMap_def]

/-! ### Sections -/

variable (h : (deviceNodes req config cs).MayReturn given devices)

include h

/-- The elements of a name, where the peripherals that have one are described by one each. -/
lemma filter_name_deviceNodes {α : Type} {get : Peripheral → Option α} {element : α → Node}
    {name : String} (hname : name ∉ "disk" :: interfaceVocabulary)
    (hget : ∀ p ns, (peripheral req.vm req.host config p).MayReturn given ns →
      ns.filter (·.name = some name) = (get p).toList.map element) :
    devices.filter (·.name = some name) =
      (fixedDevices req.vm).filter (·.name = some name) ++
        (cs.peripherals.filterMap get).map element ++
        (dependentDevices req.vm cs).filter (·.name = some name) := by
  obtain ⟨peripherals, hperipherals, hfilter⟩ := exists_peripherals h
  rw [hfilter name hname, flatMap_eq_of_forall₂ hperipherals hget, List.filterMap_eq_flatMap_toList,
    List.map_flatMap]

lemma filter_console_deviceNodes :
    devices.filter (·.name = some "console") =
      (cs.peripherals.filterMap DeviceClasses.consoleOf?).map (console req.vm.id) := by
  rw [filter_name_deviceNodes h (by decide) fun _ _ => filter_console_peripheral,
    filter_name_fixedDevices, filter_name_dependentDevices]
  simp

lemma filter_serial_deviceNodes :
    devices.filter (·.name = some "serial") =
      cs.serialConsole?.toList.map (serial req.vm.id) := by
  obtain ⟨peripherals, hperipherals, hfilter⟩ := exists_peripherals h
  have hserial (kind : PeripheralKind) : elementName kind ≠ "serial" := by
    cases kind <;> simp [elementName]
  rw [hfilter "serial" (by decide), flatMap_eq_of_forall₂ hperipherals fun _ _ hns =>
    filter_name_peripheral_of_ne hns hserial,
    filter_name_fixedDevices, filter_name_dependentDevices]
  simp

/-- One balloon stands for none. -/
lemma filter_memballoon_deviceNodes :
    devices.filter (·.name = some "memballoon") =
      match cs.peripherals.filterMap DeviceClasses.balloonOf? with
      | [] => [.element "memballoon" [("model", "none")] []]
      | balloons => balloons.map balloon := by
  have hballoons : devices.filter (·.name = some "memballoon") =
      (cs.peripherals.filterMap DeviceClasses.balloonOf?).map balloon ++
        (if cs.hasBalloon then [] else [noBalloon]) := by
    rw [filter_name_deviceNodes h (by decide) fun _ _ => filter_memballoon_peripheral,
      filter_name_fixedDevices, filter_name_dependentDevices]
    simp
  rw [hballoons]
  cases hread : cs.peripherals.filterMap DeviceClasses.balloonOf? with
  | nil =>
    rw [if_neg (by simp [DeviceClasses.hasBalloon_eq_false_iff.mpr hread])]
    rfl
  | cons b rest =>
    have hballoon : cs.hasBalloon := by
      by_contra hnone
      rw [Bool.not_eq_true, DeviceClasses.hasBalloon_eq_false_iff, hread] at hnone
      cases hnone
    rw [if_pos hballoon, List.append_nil]

lemma filter_channel_deviceNodes :
    (devices.filter (·.name = some "channel")).filter (·.attribute? "type" = some "spicevmc") =
      if cs.hasSpice then [spiceAgent] else [] := by
  obtain ⟨peripherals, hperipherals, hfilter⟩ := exists_peripherals h
  have hchannel (kind : PeripheralKind) : elementName kind ≠ "channel" := by
    cases kind <;> simp [elementName]
  have hagent (name : String) :
      (agentChannel req.vm.id name).attribute? "type" = some "unix" := rfl
  have hspice : spiceAgent.attribute? "type" = some "spicevmc" := rfl
  have hchannel' : spiceChannel = spiceAgent := rfl
  rw [hfilter "channel" (by decide), flatMap_eq_of_forall₂ hperipherals fun _ _ hns =>
    filter_name_peripheral_of_ne hns hchannel,
    filter_name_fixedDevices, filter_name_dependentDevices]
  cases cs.hasSpice <;> simp [agentChannels, hagent, hspice, hchannel']

/-- The types of the remote displays, in their order. -/
lemma types_graphics_deviceNodes :
    (devices.filter (·.name = some "graphics")).map (·.attribute? "type") =
      (cs.peripherals.filterMap DeviceClasses.displayOf?).map (some ·.type.name) := by
  obtain ⟨peripherals, hperipherals, hfilter⟩ := exists_peripherals h
  rw [hfilter "graphics" (by decide), filter_name_fixedDevices, filter_name_dependentDevices,
    List.filterMap_eq_flatMap_toList, List.map_flatMap,
    ← flatMap_eq_of_forall₂ hperipherals fun _ _ => types_graphics_peripheral]
  simp [List.map_flatMap]

lemma any_graphics_deviceNodes :
    (devices.filter (·.name = some "graphics")).any (·.attribute? "type" = some "spice") =
      cs.hasSpice := by
  have hspice (d : Display) : (some d.type.name = some "spice") ↔ d.type = .spice := by
    cases d.type <;> decide
  calc (devices.filter (·.name = some "graphics")).any (·.attribute? "type" = some "spice")
    _ = ((devices.filter (·.name = some "graphics")).map (·.attribute? "type")).any
          (· = some "spice") := by rw [List.any_map]; rfl
    _ = cs.hasSpice := by
      rw [types_graphics_deviceNodes h, List.any_map, DeviceClasses.hasSpice_eq]
      simp [Function.comp_def, hspice]

/-- The video adapters are those among the peripherals, in their order. -/
lemma filter_video_deviceNodes :
    devices.filter (·.name = some "video") =
      (cs.peripherals.filterMap DeviceClasses.videoOf?).map fun v => video v.1 v.2 := by
  rw [filter_name_deviceNodes h (by decide) fun _ _ => filter_video_peripheral,
    filter_name_fixedDevices, filter_name_dependentDevices]
  simp

end

/-- The element of a console, on a socket of the machine or on a terminal. -/
def consoleElement (vm : Uuid) (c : Console) : Node :=
  let target := .element "target" [("type", c.type), ("port", "0")] []
  if c.enableSocket then
    .element "console" [("type", "unix")] [
      .element "source" [("path", "/var/run/ovirt-vmconsole-console/" ++ vm.text ++ ".sock"),
        ("mode", "bind")] [],
      target]
  else .element "console" [("type", "pty")] [target]

lemma console_eq (vm : Uuid) (c : Console) : console vm c = consoleElement vm c := by
  unfold console socket? consoleElement
  cases c.enableSocket <;> rfl

/-- Whether a console element has a serial target. -/
def hasSerialTarget (console : Node) : Bool :=
  (console.childrenNamed "target").any (·.attribute? "type" = some "serial")

/-- The host's end of a console or serial device: its type, and its socket if it has one. -/
def backEnd (n : Node) : Option String × List Node :=
  (n.attribute? "type", n.childrenNamed "source")

/-- The sections of a descriptor agree with each other and with the devices of the start. -/
structure SectionsAgree (vm : VirtualMachine) (devices : List Device) (root : Node) : Prop where
  /-- The consoles are those of the devices, in their order. -/
  consoles : root.under "devices" "console" =
    (devices.filterMap DeviceClasses.console?).map (consoleElement vm.id)
  /-- There is one serial device if there is a serial console; it has the end of the last one. -/
  serial : (root.under "devices" "serial").map backEnd =
    ((root.under "devices" "console").filter hasSerialTarget).getLast?.toList.map backEnd
  bios : root.under "os" "bios" =
    if (root.under "devices" "console").any hasSerialTarget ∧ vm.arch.family = .x86 then
      [.element "bios" [("useserial", "yes")] []] else []
  spice : (root.under "devices" "channel").filter (·.attribute? "type" = some "spicevmc") =
    if (root.under "devices" "graphics").any (·.attribute? "type" = some "spice") then
      [spiceAgent] else []
  balloons : root.under "devices" "memballoon" =
    match devices.filterMap DeviceClasses.balloon? with
    | [] => [.element "memballoon" [("model", "none")] []]
    | balloons => balloons.map balloon
  hasBalloon : root.under "devices" "memballoon" ≠ []

lemma hasSerialTarget_consoleElement (vm : Uuid) (c : Console) :
    hasSerialTarget (consoleElement vm c) = c.isSerial := by
  unfold hasSerialTarget consoleElement
  cases c.enableSocket <;>
    simp [Node.childrenNamed, Node.children, Node.name, Node.attribute?, Node.attributes,
      Console.isSerial, beq_eq_decide]

lemma backEnd_serial (vm : Uuid) (c : Console) :
    backEnd (serial vm c) = backEnd (consoleElement vm c) := by
  unfold serial socket? consoleElement
  cases c.enableSocket <;> rfl

lemma childrenNamed_bios_os (vm : VirtualMachine) (config : BuildConfig) (isSerial : Bool) :
    (os vm config isSerial).childrenNamed "bios" =
      if isSerial ∧ vm.arch.family = .x86 then [.element "bios" [("useserial", "yes")] []]
      else [] := by
  unfold os
  cases nonEmpty vm.kernel <;> cases nonEmpty vm.initrd <;> cases nonEmpty vm.kernelParameters <;>
    cases vm.bootMenu <;> cases isSerial <;> cases vm.arch.family <;> rfl

/-- The elements in a section of a domain element, which is found by its name. -/
lemma WellShaped.under_eq {root n : Node} (h : WellShaped root) (hn : n ∈ root.children)
    {outer : String} (hname : n.name = some outer) (inner : String) :
    root.under outer inner = n.childrenNamed inner := by
  rw [Node.under, Node.childrenNamed, filter_name_eq h.distinct hn hname, List.flatMap_singleton]

/-- The sections of a described domain element agree. -/
theorem sectionsAgree {req : Request} {config : BuildConfig} {ix : DiskIndices}
    {devices : List Device} {root : Node} {ns : List Node} (hshape : WellShaped root)
    (hns : (deviceNodes req config (.ofDevices ix devices)).MayReturn given ns)
    (hdevices : .element "devices" [] ns ∈ root.children)
    (hos : os req.vm config (DeviceClasses.ofDevices ix devices).serialConsole?.isSome ∈
      root.children) : SectionsAgree req.vm devices root := by
  have hunder (inner : String) : root.under "devices" inner = ns.filter (·.name = some inner) :=
    hshape.under_eq hdevices rfl inner
  have hconsoles : root.under "devices" "console" =
      (devices.filterMap DeviceClasses.console?).map (consoleElement req.vm.id) := by
    rw [hunder, filter_console_deviceNodes hns, DeviceClasses.consoles_ofDevices]
    exact congrArg (List.map · _) (funext (console_eq req.vm.id))
  have hserial : (root.under "devices" "console").filter hasSerialTarget =
      ((devices.filterMap DeviceClasses.console?).filter (·.isSerial)).map
        (consoleElement req.vm.id) := by
    rw [hconsoles, List.filter_map]
    simp only [Function.comp_def, hasSerialTarget_consoleElement]
  have hlast : ((root.under "devices" "console").filter hasSerialTarget).getLast? =
      (DeviceClasses.ofDevices ix devices).serialConsole?.map (consoleElement req.vm.id) := by
    rw [hserial, List.getLast?_map, DeviceClasses.serialConsole?_eq,
      DeviceClasses.consoles_ofDevices]
  have hballoons := filter_memballoon_deviceNodes hns
  rw [DeviceClasses.balloons_ofDevices, ← hunder] at hballoons
  refine ⟨hconsoles, ?_, ?_, ?_, hballoons, ?_⟩
  · rw [hlast, hunder, filter_serial_deviceNodes hns]
    cases (DeviceClasses.ofDevices ix devices).serialConsole? with
    | none => rfl
    | some c => exact congrArg (fun e => [e]) (backEnd_serial req.vm.id c)
  · have hany : (root.under "devices" "console").any hasSerialTarget =
        (DeviceClasses.ofDevices ix devices).serialConsole?.isSome := by
      rw [Bool.eq_iff_iff, ← Option.isSome_map, ← hlast, List.getLast?_isSome]
      simp
    rw [hshape.under_eq hos rfl, childrenNamed_bios_os, hany]
  · rw [hunder, hunder, filter_channel_deviceNodes hns, any_graphics_deviceNodes hns]
  · rw [hballoons]
    split
    · exact List.cons_ne_nil _ _
    next hne => exact fun hnil => hne (List.map_eq_nil_iff.mp hnil)

end Descriptor

open Descriptor

/-- **Sections agree**: in the descriptor of every build, the serial device is that of the last
serial console, the firmware uses the serial console if there is one, SPICE has its channel, and
one balloon stands for none. -/
theorem Request.build_sectionsAgree {fresh : FreshIds} {req : Request} {config : EngineConfig}
    {stores : Stores} {text : String} (h : (req.build fresh config stores).result = .ok text) :
    ∃ root stored, req.root fresh config stores = .ok root ∧ root.document = .ok text ∧
      stores [] (.devicesForVm req.vm.id) = .ok stored ∧
      SectionsAgree req.vm (RunOnce.devices fresh req.vm req.payload stored) root := by
  obtain ⟨root, hroot, hdocument⟩ := build_ok_iff.mp h
  have hshape := wellShaped_of_mayReturn (mayReturn_root hroot)
  obtain ⟨stored, hstored, sizingNodes, -, cpuNode, -, ns, hns, rfl⟩ := exists_stored hroot
  refine ⟨_, stored, hroot, hdocument, hstored, sectionsAgree hshape hns ?_ ?_⟩
  · exact List.mem_append_left _ (List.mem_append_right _ (List.mem_singleton_self _))
  · exact List.mem_append_right _ (List.mem_singleton_self _)

namespace Fixture

/-- A machine with a SPICE display and three serial consoles: one on a socket, one on a terminal,
and an unplugged one on a socket. -/
def withConsoles : Fixture :=
  let onTerminal := SortedMap.empty.insert "consoleType" (.string "serial")
  let onSocket := onTerminal.insert "enableSocket" (.boolean true)
  plain (plainMachine none [] [])
    [{ Device.plain ⟨⟨1⟩, default⟩ .console "console" with parameters := onSocket },
      .plain ⟨⟨2⟩, default⟩ .graphics "spice",
      { Device.plain ⟨⟨3⟩, default⟩ .console "console" with parameters := onTerminal },
      { Device.plain ⟨⟨4⟩, default⟩ .console "console" with
        parameters := onSocket, plugged := false }]

/-- The serial device is that of the second console, SPICE has its channel, and one balloon stands
for none. -/
theorem build_sectionsAgree_consoles :
    ∃ text root, (withConsoles.build (.constant default) .empty).result = .ok text ∧
      withConsoles.root (.constant default) .empty = .ok root ∧ root.document = .ok text ∧
      SectionsAgree withConsoles.vm (withConsoles.startDevices (.constant default)) root ∧
      (root.under "devices" "console").length = 2 ∧
      (root.under "devices" "serial").map backEnd = [(some "pty", [])] ∧
      root.under "os" "bios" = [.element "bios" [("useserial", "yes")] []] ∧
      (root.under "devices" "channel").filter (·.attribute? "type" = some "spicevmc") =
        [.element "channel" [("type", "spicevmc")]
          [.element "target" [("type", "virtio"), ("name", "com.redhat.spice.0")] []]] ∧
      root.under "devices" "memballoon" = [.element "memballoon" [("model", "none")] []] := by
  have hok : ∃ text, (withConsoles.build (.constant default) .empty).result = .ok text :=
    exists_ok_iff.mpr ⟨by decide +kernel, by decide +kernel, by decide +kernel⟩
  obtain ⟨text, h⟩ := hok
  obtain ⟨root, stored, hroot, hdocument, hstored, hagree⟩ := Request.build_sectionsAgree h
  obtain rfl : withConsoles.inventory.devicesOf withConsoles.vm.id = stored :=
    Except.ok.inj hstored
  have hagree : SectionsAgree withConsoles.vm (withConsoles.startDevices (.constant default))
      root := hagree
  have hread : (withConsoles.startDevices (.constant default)).filterMap
      DeviceClasses.console? = [⟨"serial", true⟩, ⟨"serial", false⟩] := by decide +kernel
  have hballoons : (withConsoles.startDevices (.constant default)).filterMap
      DeviceClasses.balloon? = [] := by decide +kernel
  have hconsoles : root.under "devices" "console" =
      [consoleElement default ⟨"serial", true⟩, consoleElement default ⟨"serial", false⟩] := by
    rw [hagree.consoles, hread]
    rfl
  have hspice : (root.under "devices" "graphics").any (·.attribute? "type" = some "spice") :=
    eq_of_map_eq_ok (b := true) (f := fun root =>
      (root.under "devices" "graphics").any (·.attribute? "type" = some "spice")) hroot
      (by decide +kernel)
  refine ⟨text, root, h, hroot, hdocument, hagree, ?_, ?_, ?_, ?_, ?_⟩
  · rw [hconsoles]
    rfl
  · rw [hagree.serial, hconsoles]
    rfl
  · rw [hagree.bios, hconsoles]
    rfl
  · rw [hagree.spice, if_pos hspice]
    rfl
  · rw [hagree.balloons, hballoons]

end Fixture

end VmDescriptor
