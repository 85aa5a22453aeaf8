import VmDescriptor.Proofs.Descriptor.DependentSections
import VmDescriptor.Proofs.RunOnce
import VmDescriptor.Proofs.SortedMap

/-!
The displays of a run-once start.

A run of a machine with a display type has the video adapter of that type, and a run of a machine
with display protocols has one remote display for each of them; a machine without video has
neither. Stored displays are replaced, so the document shows nothing of them.
-/

namespace VmDescriptor

open Program Xml

namespace Descriptor

variable {given : Answers}

/-! ### Elements inside devices -/

/-- Whether an element stands for a display: a video adapter, a remote display, or the channel to
the SPICE agent. -/
def showsDisplay (e : Node) : Bool :=
  e.name = some "video" || e.name = some "graphics" ||
    (e.name = some "channel" && e.attribute? "type" = some "spicevmc")

/-- No element inside of some has to do with displays. -/
abbrev NoDisplayIn (ns : List Node) : Prop :=
  EveryIn (showsDisplay · = false) ns

@[simp] lemma showsDisplay_element {name : String} {attributes : List (String × String)}
    {children : List Node} :
    showsDisplay (.element name attributes children) = false ↔
      name ≠ "video" ∧ name ≠ "graphics" ∧
        (name = "channel" → attributes.lookup "type" ≠ some "spicevmc") := by
  by_cases htype : attributes.lookup "type" = some "spicevmc" <;>
    simp [showsDisplay, Node.name, Node.attribute?, Node.attributes, htype, and_assoc]

lemma noDisplayIn_addressNodes (a : Address) : NoDisplayIn (addressNodes a) := by
  simp [addressNodes]

/-- Elements with other names have nothing to do with displays. -/
lemma noDisplayIn_children {ns : List Node} {V : String → Prop} (h : EveryIn (Regular V) ns)
    (hV : ∀ name, V name → name ∉ ["video", "graphics", "channel"]) :
    ∀ n ∈ ns, NoDisplayIn n.children := by
  intro n hn
  cases n with
  | text s => exact everyIn_nil
  | element name attributes children =>
    intro child hchild e he
    obtain ⟨⟨name', hname', hv⟩, -⟩ := (every_element.mp (h _ hn)).2 child hchild e he
    have hother := hV name' hv
    simp only [List.mem_cons, List.not_mem_nil, or_false, not_or] at hother
    simp [showsDisplay, hname', hother]

section

variable {vm : VirtualMachine} {host : Uuid} {config : BuildConfig}

lemma noDisplayIn_hostEnd (socket : Option String) : NoDisplayIn (hostEnd socket).2 := by
  cases socket <;> simp [hostEnd]

/-- The channels that a SPICE display secures have no type. -/
lemma noDisplayIn_spiceOptions {ns : List Node} (h : (spiceOptions vm config).MayReturn given ns) :
    NoDisplayIn ns := by
  have htype (name : String) :
      List.lookup "type" [("name", name), ("mode", "secure")] = none := rfl
  unfold spiceOptions at h
  cases hssl : config.settings.sslEnabled <;>
  · simp only [hssl, if_true, Bool.false_eq_true, if_false, mayReturn_bind, mayEnd_pure,
      Except.ok.injEq] at h
    obtain ⟨channels, -, rfl⟩ := h
    simp [flag, htype]

lemma noDisplayIn_display {d : Display} {network : Option Network} {n : Node}
    (h : (display vm config d network).MayReturn given n) : NoDisplayIn n.children := by
  have hlisten : NoDisplayIn (network.toList.map (listen d)) := by
    refine everyIn_map.mpr fun network _ => ?_
    unfold listen
    cases d.ip <;> simp
  unfold display at h
  cases htype : d.type with
  | spice =>
    simp only [htype, mayReturn_bind, mayEnd_pure, Except.ok.injEq] at h
    obtain ⟨options, hoptions, rfl⟩ := h
    exact everyIn_append.mpr ⟨noDisplayIn_spiceOptions hoptions, hlisten⟩
  | vnc =>
    simp only [htype, mayEnd_pure, Except.ok.injEq] at h
    subst h
    exact hlisten

lemma noDisplayIn_passthrough (type : String) (adapter : Option String) (source a : Address) :
    NoDisplayIn (passthrough type adapter source a).children := by
  have ha := noDisplayIn_addressNodes a
  cases adapter <;> simp [passthrough, Node.children, flag, ha]

lemma noDisplayIn_hostDevice {name : String} {placeholder : Bool} {found : Option HostDevice}
    {a : Address} {ns : List Node}
    (h : (hostDevice name placeholder found a).MayReturn given ns) :
    ∀ n ∈ ns, NoDisplayIn n.children := by
  rcases mayReturn_hostDevice h with rfl | ⟨d, type, adapter, source, -, rfl⟩
  · exact List.forall_mem_nil _
  · exact List.forall_mem_singleton.mpr (noDisplayIn_passthrough _ _ _ _)

lemma noDisplayIn_peripheral {p : Peripheral} {ns : List Node}
    (h : (peripheral vm host config p).MayReturn given ns) : ∀ n ∈ ns, NoDisplayIn n.children := by
  have ha := noDisplayIn_addressNodes p.address
  unfold peripheral at h
  cases hkind : p.kind with
  | graphics d =>
    simp only [hkind, mayReturn_bind, mayEnd_pure, Except.ok.injEq] at h
    obtain ⟨network, -, n, hn, rfl⟩ := h
    exact List.forall_mem_singleton.mpr (noDisplayIn_display hn)
  | hostDevice name placeholder =>
    simp only [hkind, mayReturn_bind] at h
    obtain ⟨devices, -, h⟩ := h
    exact noDisplayIn_hostDevice h
  | video v =>
    simp only [hkind, mayEnd_pure, Except.ok.injEq] at h
    subst h
    simp [video, Node.children, ha]
  | rng r =>
    simp only [hkind, mayEnd_pure, Except.ok.injEq] at h
    subst h
    simp [rng, Node.children]
  | console c =>
    simp only [hkind, mayEnd_pure, Except.ok.injEq] at h
    subst h
    simp [console, Node.children, noDisplayIn_hostEnd]
  | _ =>
    simp only [hkind, mayEnd_pure, Except.ok.injEq] at h
    subst h
    exact List.forall_mem_singleton.mpr ha

lemma noDisplayIn_fixedDevices : ∀ n ∈ fixedDevices vm, NoDisplayIn n.children := by
  unfold fixedDevices emulator input
  cases vm.arch.family <;> simp [agentChannels, agentChannel, flag, Node.children, Node.leaf]

lemma noDisplayIn_dependentDevices {cs : DeviceClasses} :
    ∀ n ∈ dependentDevices vm cs, NoDisplayIn n.children := by
  have hserial (c : Console) : NoDisplayIn (serial vm.id c).children := by
    simp [serial, Node.children, noDisplayIn_hostEnd, flag]
  have hlease (l : Lease) : NoDisplayIn (lease vm.id l).children := by
    simp [lease, Node.children]
  simp only [dependentDevices, List.forall_mem_append, List.forall_mem_map]
  refine ⟨⟨⟨?_, fun c _ => hserial c⟩, fun l _ => hlease l⟩, ?_⟩
  · split
    · exact List.forall_mem_nil _
    · exact List.forall_mem_singleton.mpr everyIn_nil
  · split
    · exact List.forall_mem_singleton.mpr (by simp [spiceChannel, Node.children])
    · exact List.forall_mem_nil _

/-- Inside of a device nothing stands for a display. -/
theorem noDisplayIn_deviceNodes {req : Request} {cs : DeviceClasses} {devices : List Node}
    (h : (deviceNodes req config cs).MayReturn given devices) :
    ∀ n ∈ devices, NoDisplayIn n.children := by
  obtain ⟨peripherals, hperipherals, interfaces, hinterfaces, diskNodes, hdisks, rfl⟩ :=
    mayReturn_deviceNodes.mp h
  have hdisk : ∀ name ∈ diskVocabulary, name ∉ ["video", "graphics", "channel"] := by decide
  simp only [List.forall_mem_append]
  refine ⟨⟨⟨⟨⟨noDisplayIn_fixedDevices, ?_⟩, noDisplayIn_dependentDevices⟩, ?_⟩, ?_⟩, ?_⟩
  · intro n hn
    obtain ⟨ns, hns, hn⟩ := List.mem_flatten.mp hn
    obtain ⟨p, -, hp⟩ := exists_mem_of_mayReturn_mapM hperipherals hns
    exact noDisplayIn_peripheral hp n hn
  · exact noDisplayIn_children (every_interfaces hinterfaces) (by decide)
  · exact noDisplayIn_children (every_removableNodes req.vm cs) hdisk
  · exact noDisplayIn_children (every_disks hdisks) hdisk

end

/-! ### Displays -/

/-- The channels to the SPICE agent, at any depth. -/
def spiceChannelsIn (ns : List Node) : List Node :=
  (elementsNamed "channel" ns).filter (·.attribute? "type" = some "spicevmc")

/-- The displays at any depth are those among the devices themselves. -/
lemma displays_eq_filter {ns : List Node} (h : ∀ n ∈ ns, NoDisplayIn n.children) :
    elementsNamed "video" ns = ns.filter (·.name = some "video") ∧
      elementsNamed "graphics" ns = ns.filter (·.name = some "graphics") ∧
      spiceChannelsIn ns =
        (ns.filter (·.name = some "channel")).filter (·.attribute? "type" = some "spicevmc") := by
  have hfilter {p : Node → Bool} (hp : ∀ e, p e → showsDisplay e) :
      (ns.flatMap Node.elements).filter p = ns.filter p := by
    have hfalse (e : Node) (he : showsDisplay e = false) : p e = false := by
      by_contra hpe
      exact Bool.false_ne_true (he.symm.trans (hp e (by simpa using hpe)))
    refine filter_elements (fun s => hfalse _ rfl) fun n hn child hchild => ?_
    exact (h n hn child hchild).imp hfalse
  refine ⟨hfilter fun e he => ?_, hfilter fun e he => ?_, ?_⟩
  · simp [showsDisplay, of_decide_eq_true he]
  · simp [showsDisplay, of_decide_eq_true he]
  · rw [spiceChannelsIn, elementsNamed, List.filter_filter, List.filter_filter]
    refine hfilter fun e he => ?_
    obtain ⟨htype, hname⟩ := Bool.and_eq_true_iff.mp he
    simp [showsDisplay, of_decide_eq_true htype, of_decide_eq_true hname]

/-- The video adapter of a run, with the sizes that stand for none. -/
def runVideo (model : String) : Node :=
  .element "video" [] [.element "model" [("type", model), ("vram", "32768"), ("heads", "1")] []]

/-- The displays of a document are those of the run: one video adapter, of the model of the
machine's display type, and one remote display for each protocol, SPICE first. -/
structure ShowsDisplays (vm : VirtualMachine) (root : Node) : Prop where
  video : ∀ display, vm.displayType = some display →
    elementsNamed "video" [root] = (RunOnce.videoModelOf display).toList.map runVideo
  noDisplay : vm.displayType = some .none →
    elementsNamed "graphics" [root] = [] ∧ spiceChannelsIn [root] = []
  protocols : vm.displayType ≠ some .none → vm.graphics.isEmpty = false →
    (elementsNamed "graphics" [root]).map (·.attribute? "type") =
      ([.spice, .vnc].filter vm.graphics.contains).map (some <| RunOnce.subtypeOf ·)
  spice : vm.displayType ≠ some .none → vm.graphics.isEmpty = false →
    spiceChannelsIn [root] = if vm.graphics.contains .spice then [spiceAgent] else []

/-- What is read from devices of one type is read from all devices. -/
lemma filterMap_filter_type {α : Type} {f : Device → Option α} {type : DeviceType}
    (hf : ∀ d, d.type ≠ type → f d = none) (ds : List Device) :
    (ds.filter (·.type = type)).filterMap f = ds.filterMap f := by
  rw [List.filterMap_filter]
  refine List.filterMap_congr fun d _ => ?_
  by_cases h : d.type = type <;> simp [h, hf]

/-- The video adapter of a run, if the machine has a display type. -/
lemma videos_devices (fresh : FreshIds) {vm : VirtualMachine} {payload : Option Device}
    (stored : List Device) (hrun : vm.runOnce) (hpayload : ∀ p ∈ payload, p.type ≠ .video)
    {display : DisplayType} (hdisplay : vm.displayType = some display) :
    ((RunOnce.devices fresh vm payload stored).filterMap DeviceClasses.video?).map
        (fun v => video v.1 v.2) =
      (RunOnce.videoModelOf display).toList.map runVideo := by
  have hvideo (d : Device) (hd : d.type ≠ .video) : DeviceClasses.video? d = none :=
    if_neg fun h => hd h.2
  have hadded (model : String) : ([model].map (RunOnce.madeUp fresh.video vm .video)).filterMap
      DeviceClasses.video? = [(⟨model, none, none, none, none⟩, .empty)] := rfl
  rw [← filterMap_filter_type hvideo, RunOnce.filter_video_devices hrun hpayload hdisplay]
  cases display with
  | none => rfl
  | _ => exact congrArg (List.map fun v => video v.1 v.2) (hadded _)

/-- The displays of a run: none if the machine has no video, else one for each protocol. -/
lemma displays_devices (fresh : FreshIds) {vm : VirtualMachine} {payload : Option Device}
    (stored : List Device) (hrun : vm.runOnce) (hpayload : ∀ p ∈ payload, p.type ≠ .graphics)
    (hset : vm.displayType = some .none ∨ vm.graphics.isEmpty = false) :
    (RunOnce.devices fresh vm payload stored).filterMap DeviceClasses.display? =
      if vm.displayType = some .none then []
      else ([.spice, .vnc].filter vm.graphics.contains).map (⟨·, none⟩) := by
  have hdisplay (d : Device) (hd : d.type ≠ .graphics) : DeviceClasses.display? d = none :=
    if_neg fun h => hd h.2
  have hplain (id : Uuid) (protocol : GraphicsType) : DeviceClasses.display?
      (RunOnce.madeUp id vm .graphics (RunOnce.subtypeOf protocol)) = some ⟨protocol, none⟩ := by
    cases protocol <;> rfl
  have hkeys : vm.graphics.keys = [.spice, .vnc].filter vm.graphics.contains := by
    refine vm.graphics.keys_eq_filter (by decide) fun protocol _ => ?_
    cases protocol <;> decide
  rw [← filterMap_filter_type hdisplay, RunOnce.filter_graphics_devices hrun hpayload hset]
  split_ifs
  · rfl
  · rw [List.filterMap_map, ← hkeys, ← List.filterMap_eq_map]
    exact List.filterMap_congr fun protocol _ => hplain _ protocol

/-- The displays of a described domain element are those of the run. -/
lemma showsDisplays {fresh : FreshIds} {req : Request} {config : BuildConfig}
    {stored : List Device} {root : Node} {ns : List Node} (hrun : req.vm.runOnce)
    (hpayload : ∀ p ∈ req.payload, p.type = .disk)
    (hns : (deviceNodes req config (classified fresh req config stored)).MayReturn given ns)
    (hroot : ∀ name, IsDeviceName name → elementsNamed name [root] = elementsNamed name ns) :
    ShowsDisplays req.vm root := by
  have hpayload' (type : DeviceType) (htype : .disk ≠ type) : ∀ p ∈ req.payload, p.type ≠ type :=
    fun p hp => hpayload p hp ▸ htype
  obtain ⟨hvideo, hgraphics, hspice⟩ := displays_eq_filter (noDisplayIn_deviceNodes hns)
  rw [← hroot "video" (isDeviceName (by decide) (by decide) (by decide)),
    filter_video_deviceNodes hns, classified, DeviceClasses.videos_ofDevices] at hvideo
  rw [← hroot "graphics" (isDeviceName (by decide) (by decide) (by decide))] at hgraphics
  have htypes := types_graphics_deviceNodes hns
  rw [← hgraphics, classified, DeviceClasses.displays_ofDevices] at htypes
  rw [filter_channel_deviceNodes hns, DeviceClasses.hasSpice_eq, classified,
    DeviceClasses.displays_ofDevices, spiceChannelsIn,
    ← hroot "channel" (isDeviceName (by decide) (by decide) (by decide))] at hspice
  have hdisplays := displays_devices fresh stored hrun (hpayload' .graphics (by decide))
  refine ⟨fun display hdisplay => ?_, fun hnone => ?_, fun hsome hprotocols => ?_,
    fun hsome hprotocols => ?_⟩
  · rw [hvideo, videos_devices fresh stored hrun (hpayload' .video (by decide)) hdisplay]
  · rw [hdisplays (.inl hnone), if_pos hnone] at htypes hspice
    exact ⟨List.map_eq_nil_iff.mp htypes, hspice⟩
  · rw [htypes, hdisplays (.inr hprotocols), if_neg hsome, List.map_map, RunOnce.subtypeOf_eq]
    rfl
  · rw [spiceChannelsIn, hspice, hdisplays (.inr hprotocols), if_neg hsome]
    cases hcontains : req.vm.graphics.contains .spice <;> simp [hcontains]

end Descriptor

open Descriptor

/-- **Displays of a run**: the document of every run-once start whose payload is a disk has the
video adapter of the machine's display type and the remote displays of its protocols, whatever
displays are stored. -/
theorem Request.build_showsDisplays {fresh : FreshIds} {req : Request} {config : EngineConfig}
    {stores : Stores} {text : String} (hrun : req.vm.runOnce)
    (hpayload : ∀ p ∈ req.payload, p.type = .disk)
    (h : (req.build fresh config stores).result = .ok text) :
    ∃ root, req.root fresh config stores = .ok root ∧ root.document = .ok text ∧
      ShowsDisplays req.vm root := by
  obtain ⟨root, hroot, hdocument⟩ := build_ok_iff.mp h
  obtain ⟨stored, -, sizingNodes, hsizing, cpuNode, hcpu, ns, hns, rfl⟩ := exists_stored hroot
  exact ⟨_, hroot, hdocument, showsDisplays hrun hpayload hns fun name hname =>
    elementsNamed_sections hname hsizing hcpu⟩

namespace Fixture

/-- A run of a machine with a VGA adapter and both protocols, started from a CD-ROM; a QXL adapter
and two SPICE displays, of which one is unplugged, are stored. -/
def withRunDisplays : Fixture :=
  let info : GraphicsInfo := ⟨none, some 5900, none⟩
  let vm := { plainMachine none [] [] with
    runOnce := true, displayType := some .vga,
    graphics := (SortedMap.empty.insert .vnc info).insert .spice info }
  { plain vm
      [.plain ⟨⟨1⟩, default⟩ .graphics "spice", .plain ⟨⟨2⟩, default⟩ .video "qxl",
        { Device.plain ⟨⟨3⟩, default⟩ .graphics "spice" with plugged := false }] with
    payload := some (.plain ⟨⟨4⟩, default⟩ .disk "cdrom") }

/-- The document has the VGA adapter, a SPICE and a VNC display, and the channel to the agent. -/
theorem build_showsDisplays_vga :
    ∃ text root, (withRunDisplays.build (.constant default) .empty).result = .ok text ∧
      withRunDisplays.root (.constant default) .empty = .ok root ∧ root.document = .ok text ∧
      elementsNamed "video" [root] = [.element "video" []
        [.element "model" [("type", "vga"), ("vram", "32768"), ("heads", "1")] []]] ∧
      (elementsNamed "graphics" [root]).map (·.attribute? "type") = [some "spice", some "vnc"] ∧
      spiceChannelsIn [root] = [.element "channel" [("type", "spicevmc")]
        [.element "target" [("type", "virtio"), ("name", "com.redhat.spice.0")] []]] := by
  have hok : ∃ text, (withRunDisplays.build (.constant default) .empty).result = .ok text :=
    exists_ok_iff.mpr ⟨by decide +kernel, by decide +kernel, by decide +kernel⟩
  obtain ⟨text, h⟩ := hok
  have hpayload : ∀ p ∈ withRunDisplays.request.payload, p.type = .disk := by
    rintro p ⟨⟩
    rfl
  obtain ⟨root, hroot, hdocument, hdisplays⟩ := Request.build_showsDisplays rfl hpayload h
  have hvga : withRunDisplays.vm.displayType = some .vga := rfl
  have hsome : withRunDisplays.vm.displayType ≠ some .none := by decide
  have hprotocols : withRunDisplays.vm.graphics.isEmpty = false := by decide +kernel
  have hcontains : [GraphicsType.spice, .vnc].filter withRunDisplays.vm.graphics.contains =
      [.spice, .vnc] := by decide +kernel
  refine ⟨text, root, h, hroot, hdocument, hdisplays.video _ hvga, ?_, ?_⟩
  · refine (hdisplays.protocols hsome hprotocols).trans ?_
    change ([GraphicsType.spice, .vnc].filter withRunDisplays.vm.graphics.contains).map _ = _
    rw [hcontains]
    rfl
  · refine (hdisplays.spice hsome hprotocols).trans (if_pos ?_)
    decide +kernel

end Fixture

end VmDescriptor
