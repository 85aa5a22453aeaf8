import VmDescriptor.Proofs.Descriptor.AttributeKeys
import VmDescriptor.Proofs.Xml.WellFormed

/-!
Descriptors as markup.

Two kinds of strings of a request become names: the key of a custom property is the name of an
element, and the keys of a device's address are those of an `address` element. They are written as
they are. All other strings of a request are values and texts, which are escaped.

So the text of a descriptor is read back as the tree that was written just when those keys can be
read as names, and is a well-formed document just when they are names of the standard and nothing
contains a character that may not occur.
-/

namespace VmDescriptor

open Program Xml

namespace Descriptor

/-! ### Names of elements -/

/-- The names that do not come from a request. -/
def fixedNames : List String :=
  ["domain", "devices", "metadata", "minGuaranteedMemoryMb", "clusterVersion",
    Writer.qualified tuneNamespace.1 "qos", vmName "vm", vmName "custom"] ++
    sectionVocabulary ++ peripheralVocabulary ++ interfaceVocabulary ++ diskVocabulary

/-- The name is a fixed one or that of a custom property. -/
def IsElementName (vm : VirtualMachine) (name : String) : Prop :=
  name ∈ fixedNames ∨ ∃ entry ∈ vm.customProperties.entries, name = vmName entry.1

lemma regular_metadata (vm : VirtualMachine) :
    (metadata vm).Every (Regular (IsElementName vm)) := by
  have hfixed : ∀ name ∈ ["metadata", "minGuaranteedMemoryMb", "clusterVersion",
      Writer.qualified tuneNamespace.1 "qos", vmName "vm", vmName "custom"],
      IsElementName vm name := fun name hname => .inl (by revert name; decide)
  have hcustom : ∀ entry ∈ vm.customProperties.entries, IsElementName vm (vmName entry.1) :=
    fun entry hentry => .inr ⟨entry, hentry, rfl⟩
  simp only [List.forall_mem_cons] at hfixed
  simp only [metadata, every_element, regular_element, everyIn_cons, everyIn_nil, every_leaf,
    every_withText, every_text, everyIn_map, hfixed, List.map_nil, List.map_cons, List.nodup_nil,
    List.nodup_singleton, and_true, true_and]
  exact hcustom

/-- The elements of a custom property are in the metadata. -/
lemma every_custom {vm : VirtualMachine} {P : Node → Prop} (h : (metadata vm).Every P) :
    ∀ entry ∈ vm.customProperties.entries,
      P (.element (vmName entry.1) [] [.text entry.2]) := by
  simp only [metadata, every_element, everyIn_cons, everyIn_map, every_withText] at h
  exact h.2.2.1.2.2.2.1.2

section

variable {given : Answers} {req : Request} {config : BuildConfig}

lemma regular_deviceNodes {cs : DeviceClasses} {devices : List Node}
    (h : (deviceNodes req config cs).MayReturn given devices) :
    EveryIn (Regular (IsElementName req.vm)) devices := by
  have hfixed {V : List String} (hV : ∀ name ∈ V, name ∈ fixedNames) :
      ∀ name, name ∈ V → IsElementName req.vm name := fun name hname => .inl (hV name hname)
  obtain ⟨peripherals, hperipherals, interfaces, hinterfaces, diskNodes, hdisks, rfl⟩ :=
    mayReturn_deviceNodes.mp h
  have hperipheral : ∀ name, name ∈ peripheralVocabulary → IsElementName req.vm name :=
    hfixed (by decide)
  have hdisk : ∀ name, name ∈ diskVocabulary → IsElementName req.vm name := hfixed (by decide)
  simp only [everyIn_append]
  exact ⟨⟨⟨⟨⟨(every_fixedDevices _).imp hperipheral, (every_peripherals hperipherals).imp
    hperipheral⟩, (every_dependentDevices _ _).imp hperipheral⟩,
    (every_interfaces hinterfaces).imp (hfixed (by decide))⟩,
    (every_removableNodes _ _).imp hdisk⟩, (every_disks hdisks).imp hdisk⟩

lemma regular_sections {sizingNodes devices : List Node} {cpuNode : Node} {serial : Bool}
    (hsizing : (sizing req.vm config).MayReturn given sizingNodes)
    (hcpu : (cpu req.vm config req.params).MayReturn given cpuNode)
    (hdevices : EveryIn (Regular (IsElementName req.vm)) devices) :
    (Node.element "domain" rootAttributes
      (sections req config sizingNodes cpuNode devices serial)).Every
        (Regular (IsElementName req.vm)) := by
  have hsection : ∀ name, name ∈ sectionVocabulary → IsElementName req.vm name :=
    fun name hname => .inl (by revert name; decide)
  have hclock := (every_clock req.vm config).imp fun _ he => he.imp hsection
  have hcpu := (every_cpu hcpu).imp fun _ he => he.imp hsection
  have hos := (every_os req.vm config serial).imp fun _ he => he.imp hsection
  have hdomain : IsElementName req.vm "domain" := .inl (by decide)
  have hdevicesName : IsElementName req.vm "devices" := .inl (by decide)
  simp only [every_element, regular_element, sections, everyIn_append, everyIn_cons, everyIn_nil,
    List.map_nil, List.nodup_nil, and_true]
  exact ⟨⟨hdomain, by decide⟩, ⟨⟨⟨⟨⟨⟨⟨⟨⟨(every_sizing hsizing).imp hsection,
    regular_metadata _⟩, (every_sysinfo _).imp hsection⟩, hclock⟩,
    (every_powerEvents _).imp hsection⟩, (every_features _ _).imp hsection⟩, hcpu⟩,
    (every_cpuTune _).imp hsection⟩, (every_numaTune _).imp hsection⟩, hdevicesName, hdevices⟩,
    hos⟩

end

lemma isXmlName_fixedNames : ∀ name ∈ fixedNames, IsXmlName name := by decide +kernel

lemma isXmlName_fixedKeys : ∀ key ∈ fixedKeys, IsXmlName key := by decide +kernel

lemma toList_vmName (key : String) : (vmName key).toList = "ovirt-vm:".toList ++ key.toList := by
  simp [vmName, Writer.qualified, vmNamespace]

/-- A name in the namespace of the machine can be read just when what follows can be. -/
lemma isName_vmName {key : String} : IsName (vmName key) ↔ ∀ c ∈ key.toList, isNameChar c := by
  have hprefix : IsName "ovirt-vm:" := by decide
  have hne : vmName key ≠ "" := by
    rw [ne_eq, ← String.toList_eq_nil_iff, toList_vmName]
    simp
  rw [IsName, toList_vmName, List.forall_mem_append]
  exact ⟨fun h => h.2.2, fun h => ⟨hne, hprefix.2, h⟩⟩

lemma isXmlName_vmName {key : String} : IsXmlName (vmName key) ↔ HasNameChars key := by
  have hprefix : HasNameChars "ovirt-vm:" := by decide
  have hstart : ("ovirt-vm:".toList ++ key.toList).head?.any (inRanges nameStartRanges) := rfl
  rw [IsXmlName, HasNameChars, toList_vmName, List.forall_mem_append]
  exact ⟨fun h => h.2.2, fun h => ⟨hstart, hprefix, h⟩⟩

end Descriptor

open Descriptor

namespace Request

variable {fresh : FreshIds} {req : Request} {config : EngineConfig} {stores : Stores} {root : Node}

lemma root_eq_element (h : req.root fresh config stores = .ok root) :
    ∃ name attributes children, root = .element name attributes children := by
  obtain ⟨sizingNodes, -, cpuNode, -, stored, -, devices, -, rfl⟩ :=
    mayReturn_domain.mp (mayReturn_root h)
  exact ⟨_, _, _, rfl⟩

/-- **Names are fixed ones, but for those of custom properties**, and keys are distinct. -/
theorem regular_root (h : req.root fresh config stores = .ok root) :
    root.Every (Regular (IsElementName req.vm)) := by
  obtain ⟨sizingNodes, hsizing, cpuNode, hcpu, stored, -, devices, hdevices, rfl⟩ :=
    mayReturn_domain.mp (mayReturn_root h)
  exact regular_sections hsizing hcpu (regular_deviceNodes hdevices)

lemma every_metadata_of_root (h : req.root fresh config stores = .ok root) {P : Node → Prop}
    (hP : root.Every P) : (metadata req.vm).Every P := by
  obtain ⟨sizingNodes, -, cpuNode, -, stored, -, devices, -, rfl⟩ :=
    mayReturn_domain.mp (mayReturn_root h)
  simp only [every_element, sections, everyIn_append, everyIn_cons] at hP
  exact hP.2.1.1.1.1.1.1.1.1.1.2.1

/-- If fixed names and keys have a property, then all names and keys do just when those have it
that come from custom properties and addresses. -/
lemma every_names_iff (h : req.root fresh config stores = .ok root) {P : String → Prop}
    (hnames : ∀ name ∈ fixedNames, P name) (hkeys : ∀ key ∈ fixedKeys, P key) :
    (root.Every fun e =>
        (∀ name, e.name = some name → P name) ∧ ∀ key ∈ e.attributes.map Prod.fst, P key) ↔
      (∀ entry ∈ req.vm.customProperties.entries, P (vmName entry.1)) ∧
        ∀ e ∈ elementsNamed "address" [root], ∀ key ∈ e.attributes.map Prod.fst, P key := by
  constructor
  · intro hevery
    refine ⟨fun entry hentry => ?_, fun e he => (hevery e (mem_elementsNamed.mp he).1).2⟩
    exact (every_custom (every_metadata_of_root h hevery) entry hentry).1 _ rfl
  · rintro ⟨hcustom, haddress⟩ e he
    refine ⟨fun name hname => ?_, fun key hkey => ?_⟩
    · obtain ⟨⟨name', hname', hvocabulary⟩, -⟩ := regular_root h e he
      obtain rfl : name = name' := Option.some.inj (hname.symm.trans hname')
      rcases hvocabulary with hfixed | ⟨entry, hentry, rfl⟩
      · exact hnames name hfixed
      · exact hcustom entry hentry
    · obtain ⟨stored, -, hkeyed⟩ := keyed_root h
      rcases hkeyed e he key hkey with hfixed | ⟨hname, -⟩
      · exact hkeys key hfixed
      · exact haddress e (mem_elementsNamed.mpr ⟨he, hname⟩) key hkey

/-- The text is read back just when the names that are not fixed can be read. -/
lemma read_iff (hroot : req.root fresh config stores = .ok root) {text : String}
    (hdocument : root.document = .ok text) :
    read text = some [root.joined] ↔
      (∀ entry ∈ req.vm.customProperties.entries, ∀ c ∈ entry.1.toList, isNameChar c) ∧
        ∀ e ∈ elementsNamed "address" [root], ∀ key ∈ e.attributes.map Prod.fst, IsName key := by
  have hnames := every_names_iff hroot
    (fun name hname => (isXmlName_fixedNames name hname).isName)
    fun key hkey => (isXmlName_fixedKeys key hkey).isName
  simp only [isName_vmName] at hnames
  obtain ⟨name, attributes, children, rfl⟩ := root_eq_element hroot
  exact (read_document_iff hdocument).trans hnames

end Request

namespace Fixture

variable {f : Fixture} {fresh : FreshIds} {config : EngineConfig}

/-- **A descriptor is read back as it was meant, and is well formed, just when its keys are
names.** What a build writes is the document of a tree. Its elements have fixed names and those of
custom properties, in the namespace of the machine; its attributes have fixed keys and, in
`address` elements, those of the addresses of plugged devices. So no other string can change the
markup: the text is read back as the tree just when these keys can be read as names, and is also a
well-formed document just when they are names of the standard and no value or text contains a
character that may not occur. -/
theorem build_read_iff {text : String} (h : (f.build fresh config).result = .ok text) :
    ∃ root, f.root fresh config = .ok root ∧
      (∀ e ∈ root.elements, ∃ name, e.name = some name ∧
        (name ∈ fixedNames ∨ ∃ entry ∈ f.vm.customProperties.entries, name = vmName entry.1)) ∧
      (∀ e ∈ root.elements, ∀ key ∈ e.attributes.map Prod.fst, key ∈ fixedKeys ∨
        e.name = some "address" ∧
          ∃ d ∈ f.startDevices fresh, d.plugged ∧ key ∈ d.address.keys) ∧
      (read text = some [root.joined] ↔
        (∀ entry ∈ f.vm.customProperties.entries, ∀ c ∈ entry.1.toList, isNameChar c) ∧
          ∀ e ∈ elementsNamed "address" [root], ∀ key ∈ e.attributes.map Prod.fst, IsName key) ∧
      (WellFormed text ∧ read text = some [root.joined] ↔
        ((∀ entry ∈ f.vm.customProperties.entries, HasNameChars entry.1) ∧
          ∀ e ∈ elementsNamed "address" [root], ∀ key ∈ e.attributes.map Prod.fst,
            IsXmlName key) ∧
        root.Every HasLegalData) := by
  obtain ⟨root, hroot, hdocument⟩ := Request.build_ok_iff.mp h
  have hread := Request.read_iff hroot hdocument
  have hxmlNames := Request.every_names_iff hroot isXmlName_fixedNames isXmlName_fixedKeys
  simp only [isXmlName_vmName] at hxmlNames
  have hregular := Request.regular_root hroot
  obtain ⟨name, attributes, children, rfl⟩ := Request.root_eq_element hroot
  refine ⟨_, hroot, fun e he => (hregular e he).1, keyed_root hroot, hread, ?_⟩
  rw [wellFormed_document_iff hdocument (hregular.imp fun _ he => he.2)]
  exact and_congr_left' hxmlNames

/-- A plain machine with a custom property. -/
def withProperty (key value : String) : Fixture :=
  plain { plainMachine none [] [] with customProperties := .ofList [(key, value)] } []

lemma exists_build_ok (h : (f.root fresh config).toBool) :
    ∃ text, (f.build fresh config).result = .ok text := by
  obtain ⟨root, hroot⟩ := Program.exists_ok h
  exact ⟨_, Request.build_ok_iff.mpr ⟨root, hroot, root.document_eq⟩⟩

/-- A property whose value looks like markup is read back as it is. -/
theorem build_read_escaped :
    ∃ text, ((withProperty "note" "<b/>").build (.constant default) .empty).result = .ok text ∧
      ∃ root, (withProperty "note" "<b/>").root (.constant default) .empty = .ok root ∧
        read text = some [root.joined] := by
  let noted := withProperty "note" "<b/>"
  have hbuilt : (noted.root (.constant default) .empty).toBool := by decide +kernel
  obtain ⟨text, h⟩ := exists_build_ok hbuilt
  obtain ⟨root, hroot, -, hkeys, hread, -⟩ := build_read_iff h
  have hproperties : ∀ entry ∈ (withProperty "note" "<b/>").vm.customProperties.entries,
      IsName entry.1 := by decide
  refine ⟨text, h, root, hroot, hread.mpr ⟨fun entry hentry => (hproperties entry hentry).2,
    fun e he key hkey => ?_⟩⟩
  rcases hkeys e (mem_elementsNamed.mp he).1 key hkey with hkey | ⟨-, d, hd, -⟩
  · exact (isXmlName_fixedKeys key hkey).isName
  · cases hd

/-- **A property can add elements**: its key is written as it is. The markup of this one is read
as two elements that no part of the descriptor asks for, and so the text is not read back. -/
theorem build_adds_elements :
    (∃ text root,
      ((withProperty "a><b></b" "v").build (.constant default) .empty).result = .ok text ∧
      (withProperty "a><b></b" "v").root (.constant default) .empty = .ok root ∧
      read text ≠ some [root.joined]) ∧
    read (String.join ((Node.withText (vmName "a><b></b") "v").pieces.map Piece.render)) =
      some [.element "ovirt-vm:a" [] [.element "b" [] [], .text "v"], .element "b" [] []] := by
  let added := withProperty "a><b></b" "v"
  have hbuilt : (added.root (.constant default) .empty).toBool := by decide +kernel
  obtain ⟨text, htext⟩ := exists_build_ok hbuilt
  obtain ⟨root, hroot, hdocument⟩ := Request.build_ok_iff.mp htext
  refine ⟨⟨text, root, htext, hroot, fun hread => ?_⟩, rfl⟩
  obtain ⟨name, attributes, children, rfl⟩ := Request.root_eq_element hroot
  have hnames := (read_document_iff hdocument).mp hread
  have hproperty := every_custom (Request.every_metadata_of_root hroot hnames)
  have hkey : IsName (vmName "a><b></b") := (hproperty ("a><b></b", "v") (by decide)).1 _ rfl
  exact absurd hkey (by decide)

end Fixture

end VmDescriptor
