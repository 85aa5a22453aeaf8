import VmDescriptor.Proofs.Descriptor.BootNumbering
import VmDescriptor.Proofs.Descriptor.DiskElements
import VmDescriptor.Proofs.Descriptor.Interfaces
import VmDescriptor.Proofs.Descriptor.Markup
import VmDescriptor.Proofs.Descriptor.RunOnceDisplays
import VmDescriptor.Proofs.Xml.Joining

/-!
Descriptors read back.

If the keys of custom properties and of addresses can be read as names, a reader of the text that
a build writes has the described tree, with its texts joined. What is said of a descriptor goes by
its elements, their names, attributes and children, and joining texts changes none of these. So
all of it holds of the tree that is read.
-/

namespace VmDescriptor

open Program Text Xml

/-! ### Looking into a tree with its texts joined -/

section

variable (n : Node) (name : String)

lemma Xml.Node.childrenNamed_joined :
    n.joined.childrenNamed name = (n.childrenNamed name).map Node.joined := by
  rw [childrenNamed, Node.children_joined]
  exact filter_joinedAfter (fun _ => rfl) (fun n => by rw [n.name_joined]) "" n.children

lemma Xml.Node.under_joined (inner : String) :
    n.joined.under name inner = (n.under name inner).map Node.joined := by
  simp only [under, childrenNamed_joined, List.flatMap_map, List.map_flatMap]

end

namespace Descriptor

lemma targets_joined (disk : Node) : targets disk.joined = (targets disk).map Node.joined := by
  rw [targets, targets, Node.children_joined, elementsNamed, flatMap_elements_joinedAfter,
    List.filter_map]
  simp only [Function.comp_def, Node.name_joined]
  rfl

/-- The names of disks stay. -/
lemma targetNames_joined (root : Node) : targetNames root.joined = targetNames root := by
  have hdev (disk : Node) : devNames disk.joined = devNames disk := by
    simp only [devNames, targets_joined, List.filterMap_map, Function.comp_def,
      Node.attribute?_joined]
  simp only [targetNames, elementsNamed_joined, List.flatMap_map, hdev]

/-- Boot positions stay. -/
lemma bootOrders_joined (root : Node) : bootOrders root.joined = bootOrders root := by
  simp only [bootOrders, elementsNamed_joined, List.filterMap_map, Function.comp_def,
    Node.attribute?_joined]

lemma spiceChannelsIn_joined (root : Node) :
    spiceChannelsIn [root.joined] = (spiceChannelsIn [root]).map Node.joined := by
  rw [spiceChannelsIn, elementsNamed_joined, List.filter_map]
  simp only [Function.comp_def, Node.attribute?_joined]
  rfl

/-! ### Elements without texts -/

lemma joined_consoleElement (vm : Uuid) (c : Console) :
    (consoleElement vm c).joined = consoleElement vm c := by
  unfold consoleElement
  cases c.enableSocket <;> rfl

lemma joined_balloon (b : String × Address) : (balloon b).joined = balloon b := by
  unfold balloon addressNodes
  split <;> rfl

/-! ### What is said of a descriptor -/

/-- Sections that agree still do. -/
lemma SectionsAgree.joined {vm : VirtualMachine} {devices : List Device} {root : Node}
    (h : SectionsAgree vm devices root) : SectionsAgree vm devices root.joined := by
  have hself : ∀ n ∈ root.under "devices" "console", n.joined = n := by
    rw [h.consoles, List.forall_mem_map]
    exact fun c _ => joined_consoleElement vm.id c
  have hconsoles : root.joined.under "devices" "console" = root.under "devices" "console" := by
    rw [Node.under_joined, List.map_congr_left hself, List.map_id']
  have hends (ns : List Node) : (ns.map Node.joined).map backEnd =
      (ns.map backEnd).map (Prod.map id (List.map Node.joined)) := by
    rw [List.map_map, List.map_map]
    refine List.map_congr_left fun n _ => ?_
    simp only [Function.comp_apply, backEnd, Node.attribute?_joined, Node.childrenNamed_joined,
      Prod.map_apply, id_eq]
  have hlast : ∀ n ∈ ((root.under "devices" "console").filter hasSerialTarget).getLast?.toList,
      n.joined = n := fun n hn =>
    hself n (List.mem_of_mem_filter (List.mem_of_getLast? (Option.mem_toList.mp hn)))
  refine ⟨hconsoles.trans h.consoles, ?_, ?_, ?_, ?_, ?_⟩
  · rw [Node.under_joined, hends, h.serial, hconsoles, ← hends, List.map_congr_left hlast,
      List.map_id']
  · rw [Node.under_joined, h.bios, hconsoles]
    split <;> rfl
  · rw [Node.under_joined, Node.under_joined, List.filter_map, List.any_map]
    simp only [Function.comp_def, Node.attribute?_joined, h.spice]
    split <;> rfl
  · rw [Node.under_joined, h.balloons]
    split
    · rfl
    · rw [List.map_map]
      exact List.map_congr_left fun b _ => joined_balloon b
  · rw [Node.under_joined]
    exact fun hnil => h.hasBalloon (List.map_eq_nil_iff.mp hnil)

/-- The displays that are shown still are. -/
lemma ShowsDisplays.joined {vm : VirtualMachine} {root : Node} (h : ShowsDisplays vm root) :
    ShowsDisplays vm root.joined := by
  refine ⟨fun display hdisplay => ?_, fun hnone => ?_, fun hsome hprotocols => ?_,
    fun hsome hprotocols => ?_⟩
  · rw [elementsNamed_joined, h.video display hdisplay, List.map_map]
    rfl
  · rw [elementsNamed_joined, spiceChannelsIn_joined, (h.noDisplay hnone).1,
      (h.noDisplay hnone).2]
    exact ⟨rfl, rfl⟩
  · rw [elementsNamed_joined, List.map_map, ← h.protocols hsome hprotocols]
    exact List.map_congr_left fun n _ => n.attribute?_joined "type"
  · rw [spiceChannelsIn_joined, h.spice hsome hprotocols]
    split <;> rfl

/-- An interface that is shown still is. -/
lemma Shows.joined {d : InterfaceDevice} {nic : Nic} {backing : Option NicBacking} {n : Node}
    (h : Shows d nic backing n) : Shows d nic backing n.joined where
  name := n.name_joined.trans h.name
  type := (n.attribute?_joined "type").trans h.type
  mac := by
    rw [Node.childrenNamed_joined, h.mac]
    rfl
  filter := by
    rw [Node.childrenNamed_joined, h.filter]
    exact map_joined_eq_self (by simp)
  source := by
    rw [Node.childrenNamed_joined, h.source]
    exact map_joined_eq_self (by cases d.kind <;> simp)
  vlan := by
    rw [Node.childrenNamed_joined, h.vlan]
    exact map_joined_eq_self (by cases d.kind <;> simp)
  bandwidth := by
    rw [Node.childrenNamed_joined, h.bandwidth]
    exact map_joined_eq_self (by simp)

/-- What is done about an interface device, with the texts of its element joined. -/
def joinedTrace (t : Trace (List Node)) : Trace (List Node) :=
  { t with value := t.value.map Node.joined }

lemma Handles.joined {vm : VirtualMachine} {d : InterfaceDevice} {t : Trace (List Node)}
    (h : Handles vm d t) : Handles vm d (joinedTrace t) := by
  cases h with
  | withoutNic hnic => exact .withoutNic hnic
  | withNic hnic hbacking hshows => exact .withNic hnic hbacking hshows.joined

/-- Interfaces that are joined to their NICs still are. -/
lemma JoinsInterfaces.joined {vm : VirtualMachine} {devices : List Device}
    {exchanges : List Exchange} {notices : List Notice} {root : Node}
    {handled : List (Trace (List Node))}
    (h : JoinsInterfaces vm devices exchanges notices root handled) :
    JoinsInterfaces vm devices exchanges notices root.joined (handled.map joinedTrace) where
  inOrder := List.forall₂_map_right_iff.mpr (h.inOrder.imp fun _ _ => Handles.joined)
  exchanged := by
    rw [List.flatMap_map]
    exact h.exchanged
  reported := by
    rw [List.flatMap_map]
    exact h.reported
  warnings := h.warnings
  described := by
    rw [elementsNamed_joined, h.described, List.map_flatMap, List.flatMap_map]
    rfl
  correspond := by
    rw [elementsNamed_joined, List.forall₂_map_right_iff]
    exact h.correspond.imp fun _ _ ⟨nic, backing, hnic, hshows⟩ =>
      ⟨nic, backing, hnic, hshows.joined⟩

end Descriptor

open Descriptor

/-! ### Texts read back -/

namespace Request

/-- The keys of the machine's custom properties, and of the addresses of the devices that are
plugged at the start, can be read as names. -/
structure HasReadableKeys (fresh : FreshIds) (req : Request) (stores : Stores) : Prop where
  properties : ∀ entry ∈ req.vm.customProperties.entries, ∀ c ∈ entry.1.toList, isNameChar c
  addresses : ∀ stored, stores [] (.devicesForVm req.vm.id) = .ok stored →
    ∀ d ∈ RunOnce.devices fresh req.vm req.payload stored, d.plugged →
      ∀ key ∈ d.address.keys, IsName key

section

variable {fresh : FreshIds} {req : Request} {config : EngineConfig} {stores : Stores}
  {text : String} (hkeys : req.HasReadableKeys fresh stores)
  (h : (req.build fresh config stores).result = .ok text)

include hkeys

/-- The document of a root is read as the root with its texts joined. -/
lemma read_of_root {root : Node} (hroot : req.root fresh config stores = .ok root)
    (hdocument : root.document = .ok text) : read text = some [root.joined] := by
  obtain ⟨stored, hstored, hkeyed⟩ := keyed_root hroot
  refine (read_iff hroot hdocument).mpr ⟨hkeys.properties, fun e he key hkey => ?_⟩
  rcases hkeyed e (mem_elementsNamed.mp he).1 key hkey with hfixed | ⟨-, d, hd, hplugged, hd'⟩
  · exact (isXmlName_fixedKeys key hfixed).isName
  · exact hkeys.addresses stored hstored d hd hplugged key hd'

include h

/-- **Sections agree in what is read back**, with each other and with the devices. -/
theorem sectionsAgree_of_read :
    ∃ tree stored, read text = some [tree] ∧
      stores [] (.devicesForVm req.vm.id) = .ok stored ∧
      SectionsAgree req.vm (RunOnce.devices fresh req.vm req.payload stored) tree := by
  obtain ⟨root, hroot, hdocument⟩ := build_ok_iff.mp h
  have hshape := wellShaped_of_mayReturn (mayReturn_root hroot)
  have hread := read_of_root hkeys hroot hdocument
  obtain ⟨stored, hstored, sizingNodes, -, cpuNode, -, ns, hns, rfl⟩ := exists_stored hroot
  refine ⟨_, stored, hread, hstored, (sectionsAgree hshape hns ?_ ?_).joined⟩
  · exact List.mem_append_left _ (List.mem_append_right _ (List.mem_singleton_self _))
  · exact List.mem_append_right _ (List.mem_singleton_self _)

/-- **The displays of a run are in what is read back**, and no others. -/
theorem showsDisplays_of_read (hrun : req.vm.runOnce)
    (hpayload : ∀ p ∈ req.payload, p.type = .disk) :
    ∃ tree, read text = some [tree] ∧ ShowsDisplays req.vm tree := by
  obtain ⟨root, hroot, hdocument⟩ := build_ok_iff.mp h
  have hread := read_of_root hkeys hroot hdocument
  obtain ⟨stored, -, sizingNodes, hsizing, cpuNode, hcpu, ns, hns, rfl⟩ := exists_stored hroot
  exact ⟨_, hread, (showsDisplays hrun hpayload hns fun name hname =>
    elementsNamed_sections hname hsizing hcpu).joined⟩

/-- **Interfaces in what is read back** show their NICs and what the stores have told of them. -/
theorem interfaces_of_read :
    ∃ tree stored rest handled, read text = some [tree] ∧
      (req.build fresh config stores).lookups =
        .devicesForVm req.vm.id :: rest.map Sigma.fst ∧
      stores.Give [] (⟨.devicesForVm req.vm.id, stored⟩ :: rest) ∧
      JoinsInterfaces req.vm (RunOnce.devices fresh req.vm req.payload stored) rest
        (req.build fresh config stores).notices tree handled := by
  obtain ⟨root, es, hroot, hdocument, htraces, hlookups, hgive⟩ := exists_traces_root h
  obtain ⟨stored, rest, handled, rfl, hjoins⟩ := exists_interfaces htraces
  exact ⟨_, stored, rest, _, read_of_root hkeys hroot hdocument, hlookups, hgive, hjoins.joined⟩

/-- **Disk elements in what is read back** are those of the devices, with the texts inside them
joined; their targets are those that the disks take. -/
theorem diskElements_of_read :
    ∃ tree stored elements entries nodes, read text = some [tree] ∧
      stores [] (.devicesForVm req.vm.id) = .ok stored ∧
      elementsNamed "disk" [tree] = elements.map Node.joined ∧
      DiskElements (givenBy stores) req.vm (.resolve config req.vm)
        (RunOnce.devices fresh req.vm req.payload stored) elements entries nodes ∧
      (nodes.map Node.joined).map targets =
        (entries.filter (·.device.managed)).map fun e => [e.target] := by
  obtain ⟨root, hroot, hdocument⟩ := build_ok_iff.mp h
  have hread := read_of_root hkeys hroot hdocument
  obtain ⟨stored, hstored, sizingNodes, hsizing, cpuNode, hcpu, devices, hdevices, rfl⟩ :=
    exists_stored hroot
  obtain ⟨entries, nodes, helements⟩ := exists_diskElements hdevices
  have htarget (e : DiskEntry) : e.target.joined = e.target := by
    unfold DiskEntry.target
    split <;> rfl
  refine ⟨_, stored, _, entries, nodes, hread, hstored, ?_, helements, ?_⟩
  · rw [elementsNamed_joined, elementsNamed_sections isDeviceName_disk hsizing hcpu]
  · rw [List.map_map]
    refine map_eq_of_forall₂ helements.described fun e n hn => ?_
    rw [Function.comp_apply, targets_joined, hn.2, List.map_singleton, htarget]

end

end Request

namespace Fixture

section

variable {f : Fixture} {fresh : FreshIds} {config : EngineConfig} {text : String}
  (hkeys : f.request.HasReadableKeys fresh (.ofInventory f.inventory))
  (h : (f.build fresh config).result = .ok text)

include hkeys h

/-- **The names of disks in what is read back** are distinct just when at most one payload CD-ROM
is described and, if the CD-ROMs are on SATA, no virtio-scsi disk takes the index of one. -/
theorem targetNames_of_read :
    ∃ tree, read text = some [tree] ∧
      ((targetNames tree).Nodup ↔
        (payloads (f.classes fresh config).cdroms).length ≤ 1 ∧
          ((BuildConfig.resolve config f.vm).cdInterface = .sata →
            ∀ i ∈ cdromNumbers .sata f.vm (f.classes fresh config).cdroms, ∀ disk device,
              (scsiDisks f.vm (f.classes fresh config))[i]? = some (disk, device) →
                ¬ (device.managed ∧ disk.attachment.interface = .virtioScsi))) := by
  obtain ⟨root, hroot, hdocument⟩ := Request.build_ok_iff.mp h
  refine ⟨_, Request.read_of_root hkeys hroot hdocument, ?_⟩
  rw [targetNames_joined]
  exact nodup_targetNames_iff hroot

/-- **Boot positions in what is read back** are distinct just when no device that keeps its stored
position has that of another device. -/
theorem bootOrders_of_read (hdisks : (f.vm.disks.map (·.id)).Nodup)
    (hdevices : ((f.inventory.devicesOf f.vm.id).map (·.id)).Nodup) :
    ∃ tree, read text = some [tree] ∧
      ((bootOrders tree).Nodup ↔
        (f.booted fresh config).Pairwise fun d e => ¬ (f.Renumbered d ∧ f.Renumbered e) →
          f.position fresh config d = 0 ∨
            f.position fresh config d ≠ f.position fresh config e) := by
  obtain ⟨root, hroot, hdocument⟩ := Request.build_ok_iff.mp h
  refine ⟨_, Request.read_of_root hkeys hroot hdocument, ?_⟩
  rw [bootOrders_joined]
  exact nodup_bootOrders_iff hdisks hdevices hroot

/-- **With managed devices the positions read back have one gap at most**: that of a payload
CD-ROM before the user's. -/
theorem perm_bootOrders_of_read (hf : f.AllManaged) :
    ∃ tree, read text = some [tree] ∧
      (bootOrders tree).Perm (((List.range' 1 (f.chosenIds fresh config).length).filter
        (f.lostPosition? fresh config ≠ some ·)).map decimal) := by
  obtain ⟨root, hroot, hdocument⟩ := Request.build_ok_iff.mp h
  refine ⟨_, Request.read_of_root hkeys hroot hdocument, ?_⟩
  rw [bootOrders_joined]
  exact hf.perm_bootOrders hroot

end

/-- The VGA adapter of a run is read from its descriptor. -/
theorem showsDisplays_of_read_vga :
    ∃ text tree, (withRunDisplays.build (.constant default) .empty).result = .ok text ∧
      read text = some [tree] ∧ elementsNamed "video" [tree] = [.element "video" []
        [.element "model" [("type", "vga"), ("vram", "32768"), ("heads", "1")] []]] := by
  have hok : ∃ text, (withRunDisplays.build (.constant default) .empty).result = .ok text :=
    exists_ok_iff.mpr ⟨by decide +kernel, by decide +kernel, by decide +kernel⟩
  obtain ⟨text, h⟩ := hok
  have hpayload : ∀ p ∈ withRunDisplays.request.payload, p.type = .disk := by
    rintro p ⟨⟩
    rfl
  have hkeys : withRunDisplays.request.HasReadableKeys (.constant default)
      (.ofInventory withRunDisplays.inventory) := by
    refine ⟨by decide +kernel, fun stored hstored => ?_⟩
    obtain rfl : withRunDisplays.inventory.devicesOf withRunDisplays.vm.id = stored :=
      Except.ok.inj hstored
    decide +kernel
  obtain ⟨tree, hread, hdisplays⟩ :=
    Request.showsDisplays_of_read hkeys h rfl hpayload
  exact ⟨text, tree, h, hread, hdisplays.video .vga rfl⟩

end Fixture

end VmDescriptor
