import VmDescriptor.Proofs.Encoder.Balance

/-!
The shape of a descriptor.

A build never misuses the writer, and each of its encoders leaves the elements open that it finds
open. What it asks of the writer is a declaration and one domain element, whose sections stand in
a fixed order, and no element of which has an attribute twice.
-/

namespace VmDescriptor

open Program Xml

namespace Descriptor

/-! ### The order of the sections -/

/-- The names of the sections of a domain element, in order. -/
def sectionNames : List String :=
  ["name", "uuid", "memory", "currentMemory", "iothreads", "maxMemory", "vcpu", "metadata",
    "sysinfo", "clock", "on_reboot", "features", "cpu", "cputune", "numatune", "devices", "os"]

/-- The names of the sections that every domain element has. -/
def requiredNames : List String :=
  ["name", "uuid", "memory", "currentMemory", "vcpu", "metadata", "clock", "cpu", "devices",
    "os"]

/-- The names of the elements among some nodes. -/
def namesOf (ns : List Node) : List String :=
  ns.filterMap Node.name

/-- The elements have the required names and none but the allowed ones, in this order. -/
def InOrder (required allowed : List String) (ns : List Node) : Prop :=
  required.Sublist (namesOf ns) ∧ (namesOf ns).Sublist allowed

/-- Among elements with distinct names, one is found by its name. -/
lemma filter_name_eq {ns : List Node} (h : (namesOf ns).Nodup) {a : Node} {name : String}
    (ha : a ∈ ns) (haname : a.name = some name) : ns.filter (·.name = some name) = [a] := by
  induction ns with
  | nil => cases ha
  | cons n rest ih =>
    have hrest : (namesOf rest).Nodup := h.sublist ((List.sublist_cons_self n rest).filterMap _)
    have hmem {m : Node} (hm : m ∈ rest) (hmname : m.name = some name) : name ∈ namesOf rest :=
      List.mem_filterMap.mpr ⟨m, hm, hmname⟩
    by_cases hn : n.name = some name
    · simp only [namesOf, List.filterMap_cons, hn, List.nodup_cons] at h
      have hnone : rest.filter (·.name = some name) = [] := by
        refine List.filter_eq_nil_iff.mpr fun m hm hmname => ?_
        exact h.1 (hmem hm (of_decide_eq_true hmname))
      rcases List.mem_cons.mp ha with rfl | ha
      · rw [List.filter_cons_of_pos (by simpa using hn), hnone]
      · exact absurd (hmem ha haname) h.1
    · rcases List.mem_cons.mp ha with rfl | ha
      · exact absurd haname hn
      · rw [List.filter_cons_of_neg (by simpa using hn), ih hrest ha]

lemma InOrder.append {required required' allowed allowed' : List String} {ns ms : List Node}
    (h : InOrder required allowed ns) (h' : InOrder required' allowed' ms) :
    InOrder (required ++ required') (allowed ++ allowed') (ns ++ ms) := by
  simp only [InOrder, namesOf, List.filterMap_append]
  exact ⟨h.1.append h'.1, h.2.append h'.2⟩

lemma inOrder_nil (allowed : List String) : InOrder [] allowed [] :=
  ⟨List.Sublist.refl _, List.nil_sublist _⟩

lemma inOrder_element (name : String) (attributes : List (String × String))
    (children : List Node) : InOrder [name] [name] [.element name attributes children] :=
  ⟨List.Sublist.refl _, List.Sublist.refl _⟩

/-- A section that may be missing. -/
lemma inOrder_ite {c : Prop} [Decidable c] {required allowed : List String} {ns : List Node}
    (h : InOrder required allowed ns) : InOrder [] allowed (if c then ns else []) := by
  split
  · exact ⟨List.nil_sublist _, h.2⟩
  · exact inOrder_nil allowed

section

variable {given : Answers}

lemma inOrder_sizing {vm : VirtualMachine} {config : BuildConfig} {ns : List Node}
    (h : (sizing vm config).MayReturn given ns) :
    InOrder ["name", "uuid", "memory", "currentMemory", "vcpu"]
      ["name", "uuid", "memory", "currentMemory", "iothreads", "maxMemory", "vcpu"] ns := by
  simp only [sizing, mayReturn_bind, mayEnd_pure, Except.ok.injEq] at h
  obtain ⟨current, -, greatest, -, rfl⟩ := h
  have hfixed : InOrder ["name", "uuid", "memory", "currentMemory"]
      ["name", "uuid", "memory", "currentMemory"]
      [.withText "name" vm.name, .withText "uuid" vm.id.text,
        .withText "memory" (Text.decimal (memoryKib vm)),
        .withText "currentMemory" (Text.decimal (memoryKib vm))] :=
    ⟨List.Sublist.refl _, List.Sublist.refl _⟩
  have hthreads : InOrder [] ["iothreads"] (if vm.ioThreads = 0 then []
      else [.withText "iothreads" (Text.decimal vm.ioThreads.toNat)]) := by
    split
    · exact inOrder_nil _
    · exact ⟨List.nil_sublist _, List.Sublist.refl _⟩
  exact ((hfixed.append hthreads).append (inOrder_ite (inOrder_element _ _ _))).append
    (inOrder_element _ _ _)

lemma inOrder_sysinfo (vm : VirtualMachine) : InOrder [] ["sysinfo"] (sysinfo vm) := by
  unfold sysinfo
  cases vm.arch.family
  · exact ⟨List.nil_sublist _, List.Sublist.refl _⟩
  · exact inOrder_nil _

lemma inOrder_cpu {vm : VirtualMachine} {config : BuildConfig} {params : CreateParams}
    {n : Node} (h : (cpu vm config params).MayReturn given n) : InOrder ["cpu"] ["cpu"] [n] := by
  simp only [cpu, mayReturn_bind, mayEnd_pure, Except.ok.injEq] at h
  obtain ⟨topology, -, numa, -, rfl⟩ := h
  exact inOrder_element _ _ _

lemma name_cpu {vm : VirtualMachine} {config : BuildConfig} {params : CreateParams} {n : Node}
    (h : (cpu vm config params).MayReturn given n) : n.name = some "cpu" := by
  simp only [cpu, mayReturn_bind, mayEnd_pure, Except.ok.injEq] at h
  obtain ⟨topology, -, numa, -, rfl⟩ := h
  rfl

lemma inOrder_cpuTune (params : CreateParams) : InOrder [] ["cputune"] (cpuTune params) := by
  unfold cpuTune
  cases params.cpuPinning
  · exact inOrder_nil _
  · exact ⟨List.nil_sublist _, List.Sublist.refl _⟩

lemma inOrder_numaTune (params : CreateParams) : InOrder [] ["numatune"] (numaTune params) := by
  unfold numaTune
  split
  · exact inOrder_nil _
  · split
    · exact inOrder_nil _
    · exact ⟨List.nil_sublist _, List.Sublist.refl _⟩

/-- The sections after those of the sizing. -/
def furtherSections (req : Request) (config : BuildConfig) (cpu : Node) (devices : List Node)
    (serial : Bool) : List Node :=
  [metadata req.vm] ++ sysinfo req.vm ++ [clock req.vm config] ++ powerEvents req.isVolatile ++
    features req.vm config ++ [cpu] ++ cpuTune req.params ++ numaTune req.params ++
    [.element "devices" [] devices] ++ [os req.vm config serial]

lemma sections_eq (req : Request) (config : BuildConfig) (sizing : List Node) (cpu : Node)
    (devices : List Node) (serial : Bool) :
    sections req config sizing cpu devices serial =
      sizing ++ furtherSections req config cpu devices serial := by
  simp only [sections, furtherSections, List.append_assoc]

lemma inOrder_furtherSections {req : Request} {config : BuildConfig} {cpuNode : Node}
    (devices : List Node) (serial : Bool)
    (hcpu : (cpu req.vm config req.params).MayReturn given cpuNode) :
    InOrder ["metadata", "clock", "cpu", "devices", "os"]
      ["metadata", "sysinfo", "clock", "on_reboot", "features", "cpu", "cputune", "numatune",
        "devices", "os"]
      (furtherSections req config cpuNode devices serial) :=
  (inOrder_element "metadata" _ _).append (inOrder_sysinfo req.vm)
    |>.append (inOrder_element "clock" _ _)
    |>.append (inOrder_ite (inOrder_element "on_reboot" _ _))
    |>.append (inOrder_ite (inOrder_element "features" _ _))
    |>.append (inOrder_cpu hcpu)
    |>.append (inOrder_cpuTune req.params)
    |>.append (inOrder_numaTune req.params)
    |>.append (inOrder_element "devices" _ _)
    |>.append (inOrder_element "os" _ _)

/-- The sections of a domain element stand in order. -/
lemma inOrder_sections {req : Request} {config : BuildConfig} {sizingNodes : List Node}
    {cpuNode : Node} (devices : List Node) (serial : Bool)
    (hsizing : (sizing req.vm config).MayReturn given sizingNodes)
    (hcpu : (cpu req.vm config req.params).MayReturn given cpuNode) :
    InOrder requiredNames sectionNames
      (sections req config sizingNodes cpuNode devices serial) := by
  rw [sections_eq]
  exact (inOrder_sizing hsizing).append (inOrder_furtherSections devices serial hcpu)

/-! ### Attributes -/

lemma keys_deviceNodes {req : Request} {config : BuildConfig} {cs : DeviceClasses}
    {devices : List Node} (h : (deviceNodes req config cs).MayReturn given devices) :
    EveryIn (Regular fun _ => True) devices := by
  obtain ⟨peripherals, hperipherals, interfaces, hinterfaces, diskNodes, hdisks, rfl⟩ :=
    mayReturn_deviceNodes.mp h
  simp only [everyIn_append]
  exact ⟨⟨⟨⟨⟨(every_fixedDevices req.vm).imp fun _ _ => trivial,
    (every_peripherals hperipherals).imp fun _ _ => trivial⟩,
    (every_dependentDevices req.vm cs).imp fun _ _ => trivial⟩,
    (every_interfaces hinterfaces).imp fun _ _ => trivial⟩,
    (every_removableNodes req.vm cs).imp fun _ _ => trivial⟩,
    (every_disks hdisks).imp fun _ _ => trivial⟩

end

/-- The shape of the domain element: its sections are in order, each at most once, and no
element in it has two attributes with one key. -/
structure WellShaped (root : Node) : Prop where
  name : root.name = some "domain"
  sections : InOrder requiredNames sectionNames root.children
  distinct : (namesOf root.children).Nodup
  keys : ∀ e ∈ root.elements, (e.attributes.map Prod.fst).Nodup

lemma wellShaped_of_mayReturn {given : Answers} {fresh : FreshIds} {req : Request}
    {config : BuildConfig} {root : Node} (h : (domain fresh req config).MayReturn given root) :
    WellShaped root := by
  obtain ⟨sizingNodes, hsizing, cpuNode, hcpu, stored, -, devices, hdevices, rfl⟩ :=
    mayReturn_domain.mp h
  have hchildren : EveryIn (Regular fun _ => True) _ :=
    every_sections devices (classified fresh req config stored).serialConsole?.isSome
      hsizing hcpu (fun _ _ => trivial) (fun _ _ => trivial) trivial (keys_deviceNodes hdevices)
  have horder := inOrder_sections devices
    (classified fresh req config stored).serialConsole?.isSome hsizing hcpu
  have hroot : (rootAttributes.map Prod.fst).Nodup := by decide
  have hnames : sectionNames.Nodup := by decide
  exact ⟨rfl, horder, hnames.sublist horder.2, fun e he =>
    ((every_element (P := Regular fun _ => True)).mpr
      ⟨regular_element.mpr ⟨trivial, hroot⟩, hchildren⟩ e he).2⟩

end Descriptor

/-! ### Builds -/

namespace Request

variable (fresh : FreshIds) (req : Request) (config : EngineConfig) (stores : Stores)

lemma build_ne_misuse (e : Misuse) :
    (req.build fresh config stores).result ≠ .error (.document e) := by
  intro h
  rw [build_error_iff] at h
  rcases mayFail_of_run_sharing h with h | ⟨cause, h⟩
  · exact Descriptor.isOwn_of_domain h
  · cases h

/-- The draft of a build has the declaration and the calls of the root. -/
lemma result_draft {root : Node} (h : req.root fresh config stores = .ok root) :
    ((req.draft fresh (.resolve config req.vm)).sharing.run stores).result =
      .ok (Draft.add ⟨Writer.empty.declaration, [.declaration]⟩ [root]) := by
  have hdraft : req.draft fresh (.resolve config req.vm) =
      (Descriptor.domain fresh req (.resolve config req.vm)).bind fun root =>
        Program.ofExcept (.ok (Draft.add ⟨Writer.empty.declaration, [.declaration]⟩ [root])) :=
    draft_eq fresh req (.resolve config req.vm)
  rw [hdraft, sharing, run, remembering_bind_ofExcept, runFrom_bind_ofExcept]
  change req.root fresh config stores >>= _ = _
  rw [h]
  rfl

/-- **Builds write well-formed documents**: whatever the stores answer, the writer is never
misused; every encoder leaves the elements open that it finds open; and the calls made by a build
that succeeds are a declaration and those that describe a single, well-shaped domain element. -/
theorem build_wellFormed :
    (∀ misuse, (req.build fresh config stores).result ≠ .error (.document misuse)) ∧
    (∀ {α : Type} (e : Encoder α), Encoder.IsEncoder e → Encoder.KeepsOpen e) ∧
    ∀ text, (req.build fresh config stores).result = .ok text →
      ∃ d calls root,
        ((req.draft fresh (.resolve config req.vm)).sharing.run stores).result = .ok d ∧
        d.calls.reverse = .declaration :: calls ∧
        Writer.empty.performAll (.declaration :: calls) = .ok d.writer ∧
        d.writer.finish = .ok text ∧
        described? calls = some [root] ∧ Descriptor.WellShaped root ∧
        req.root fresh config stores = .ok root := by
  refine ⟨build_ne_misuse fresh req config stores,
    fun e he => Encoder.keepsOpen_of_isEncoder he, fun text h => ?_⟩
  obtain ⟨root, hroot, hdocument⟩ := build_ok_iff.mp h
  obtain ⟨w, hcalls, hfinish⟩ := root.document_eq_ok_iff.mp hdocument
  let d : Draft := Draft.add ⟨Writer.empty.declaration, [.declaration]⟩ [root]
  have hmade : d.calls.reverse = .declaration :: root.calls := by
    simp [d, Draft.add, callsOf]
  have hwriter : Writer.empty.performAll (.declaration :: root.calls) = .ok d.writer := by
    rw [Writer.performAll_cons, Writer.perform]
    change Writer.empty.declaration.performAll root.calls = _
    rw [root.performAll_calls, root.write_eq, ← piecesOf_singleton]
    rfl
  obtain rfl : d.writer = w := Except.ok.inj (hwriter.symm.trans hcalls)
  exact ⟨d, root.calls, root, result_draft fresh req config stores hroot, hmade, hwriter, hfinish,
    root.described?_calls, Descriptor.wellShaped_of_mayReturn (mayReturn_root hroot), hroot⟩

end Request

namespace Fixture

/-- A machine with a serial console, a display, a balloon, a NIC, a CD-ROM and a disk. -/
def furnished : Fixture :=
  let nic : Nic := ⟨⟨5⟩, default, "", "56:6f", true, true, none, none, none⟩
  let serial := SortedMap.empty.insert "consoleType" (.string "serial")
  let model := SortedMap.empty.insert "model" (.string "virtio")
  plain (plainMachine none [plainDisk ⟨6⟩ .virtio] [nic])
    [{ Device.plain ⟨⟨1⟩, default⟩ .console "console" with parameters := serial },
      .plain ⟨⟨2⟩, default⟩ .graphics "spice",
      { Device.plain ⟨⟨3⟩, default⟩ .balloon "memballoon" with parameters := model },
      .plain ⟨⟨4⟩, default⟩ .disk "cdrom",
      .plain ⟨⟨5⟩, default⟩ .interface "bridge",
      .plain ⟨⟨6⟩, default⟩ .disk "disk"]

/-- Its devices are encoded with the elements closed again that are opened for them. -/
theorem build_wellFormed_furnished :
    Encoder.KeepsOpen (Encoder.devices (.constant default) furnished.request
        (.resolve .empty furnished.vm)) ∧
      ∃ (text : String) (d : Draft) (calls : List Call) (root : Node),
        (furnished.build (.constant default) .empty).result = .ok text ∧
        d.calls.reverse = .declaration :: calls ∧
        Writer.empty.performAll (.declaration :: calls) = .ok d.writer ∧
        d.writer.finish = .ok text ∧ described? calls = some [root] ∧
        Descriptor.WellShaped root ∧
        calls.count (.start "disk") = 2 ∧ calls.count (.start "interface") = 1 ∧
        calls.count (.start "serial") = 1 ∧ calls.count (.attribute "model" "virtio") = 1 := by
  have hformed := Request.build_wellFormed (.constant default) furnished.request .empty
    (.ofInventory furnished.inventory)
  obtain ⟨text, h⟩ := exists_ok
    (r := (furnished.build (.constant default) .empty).result) (by decide +kernel)
  obtain ⟨d, calls, root, hd, hcalls, hwriter, hfinish, hdescribed, hshape, -⟩ :=
    hformed.2.2 text h
  have hcount {c : Call} {n : Nat} (hc : .declaration ≠ c) (h : d.calls.count c = n) :
      calls.count c = n := by
    have hreverse : d.calls.reverse.count c = n := List.count_reverse.trans h
    rwa [hcalls, List.count_cons_of_ne hc] at hreverse
  have hmade : ((furnished.request.draft (.constant default)
      (.resolve .empty furnished.vm)).sharing.run (.ofInventory furnished.inventory)).result.map
        (fun d => [.start "disk", .start "interface", .start "serial",
          .attribute "model" "virtio"].map d.calls.count) = .ok [2, 1, 1, 1] := by
    decide +kernel
  rw [show furnished.vm = furnished.request.vm from rfl, hd] at hmade
  simp only [Except.map, List.map_cons, List.map_nil, Except.ok.injEq, List.cons.injEq] at hmade
  obtain ⟨hdisk, hinterface, hserial, hballoon, -⟩ := hmade
  exact ⟨hformed.2.1 _ (.devices _ _ _), text, d, calls, root, h, hcalls, hwriter, hfinish,
    hdescribed, hshape, hcount (by decide) hdisk, hcount (by decide) hinterface,
    hcount (by decide) hserial, hcount (by decide) hballoon⟩

end Fixture

end VmDescriptor
