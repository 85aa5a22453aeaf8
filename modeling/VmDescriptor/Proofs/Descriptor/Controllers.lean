import VmDescriptor.Proofs.Descriptor.DependentSections
import VmDescriptor.Proofs.DeviceClasses.Controllers
import VmDescriptor.Proofs.Text.Numeral

/-!
The controllers of a descriptor.

Completing a controller never looks at the others, so two controllers may be described with the
same type and index. The document shows them apart just when the stored ones stay apart.
-/

namespace VmDescriptor

open Program Text Xml

namespace Descriptor

variable {given : Answers}

/-! ### Controller elements -/

/-- The element of the controller that a peripheral is. -/
def controllerNode? (p : Peripheral) : Option Node :=
  match p.kind with
  | .controller c => some (controller c p.address)
  | _ => none

/-- The controller elements of classified devices. -/
def controllerNodes (cs : DeviceClasses) : List Node :=
  cs.peripherals.filterMap controllerNode?

/-- The type and the index of the elements that have an index, as they are written. -/
def typedIndices (ns : List Node) : List (Option String × String) :=
  ns.filterMap fun n => (n.attribute? "index").map (n.attribute? "type", ·)

lemma typedIndex_controller (c : Controller) (a : Address) :
    ((controller c a).attribute? "index").map ((controller c a).attribute? "type", ·) =
      c.typedIndex?.map fun t => (some t.1, decimal t.2) := by
  obtain ⟨type, model, index, ports⟩ := c
  cases model <;> cases index <;> cases ports <;> rfl

lemma typedIndices_controllerNodes (cs : DeviceClasses) :
    typedIndices (controllerNodes cs) =
      ((cs.peripherals.filterMap DeviceClasses.controllerOf?).filterMap
        Controller.typedIndex?).map fun t => (some t.1, decimal t.2) := by
  rw [typedIndices, controllerNodes, List.filterMap_filterMap, List.filterMap_filterMap,
    List.map_filterMap]
  refine List.filterMap_congr fun p _ => ?_
  unfold controllerNode? DeviceClasses.controllerOf?
  cases p.kind with
  | controller c => exact typedIndex_controller c p.address
  | _ => rfl

/-- **Controllers apart**: the controllers described of a list of devices differ by type and
index just when the stored ones stay apart. -/
theorem nodup_typedIndices_controllerNodes (ix : DiskIndices) (devices : List Device) :
    (typedIndices (controllerNodes (.ofDevices ix devices))).Nodup ↔
      Controller.StayApart ix.nextController (devices.filterMap DeviceClasses.controller?) := by
  have hinjective : Function.Injective fun t : String × Nat => (some t.1, decimal t.2) := by
    intro t t' h
    obtain ⟨htype, hindex⟩ := Prod.mk.inj h
    exact Prod.ext (Option.some.inj htype) (decimal_injective hindex)
  rw [typedIndices_controllerNodes, List.nodup_map_iff hinjective,
    DeviceClasses.controllers_ofDevices, Controller.nodup_typedIndices_iff]

section

variable {req : Request} {config : BuildConfig} {cs : DeviceClasses}

lemma filter_controller_peripheral {vm : VirtualMachine} {host : Uuid} {p : Peripheral}
    {ns : List Node} (h : (peripheral vm host config p).MayReturn given ns) :
    ns.filter (·.name = some "controller") = (controllerNode? p).toList.map id := by
  rw [filter_name_peripheral h, List.map_id, controllerNode?]
  cases hkind : p.kind with
  | controller c =>
    simp only [peripheral, hkind, mayEnd_pure, Except.ok.injEq] at h
    subst h
    rfl
  | _ => exact if_neg (by simp [elementName])

/-- The controllers are those among the peripherals, in their order. -/
lemma filter_controller_deviceNodes {devices : List Node}
    (h : (deviceNodes req config cs).MayReturn given devices) :
    devices.filter (·.name = some "controller") = controllerNodes cs := by
  rw [filter_name_deviceNodes h (by decide) fun _ _ => filter_controller_peripheral,
    filter_name_fixedDevices, filter_name_dependentDevices]
  simp [controllerNodes]

end

/-- **Collisions of controllers**: of every list of devices, the controllers are described with
distinct types and indices just when the stored ones stay apart; and a build that is started with
the devices and succeeds describes these controllers and no other. -/
theorem controllers_nodup_iff (arch : Architecture) (cd : CdInterface) (devices : List Device) :
    ((typedIndices (controllerNodes (.ofDevices (.initial arch cd) devices))).Nodup ↔
      Controller.StayApart (DeviceClasses.scsiBase arch)
        (devices.filterMap DeviceClasses.controller?)) ∧
    ∀ (fresh : FreshIds) (req : Request) (config : EngineConfig) (stores : Stores)
      (stored : List Device) (text : String), stores [] (.devicesForVm req.vm.id) = .ok stored →
        classified fresh req (.resolve config req.vm) stored =
          .ofDevices (.initial arch cd) devices →
        (req.build fresh config stores).result = .ok text →
          ∃ root, req.root fresh config stores = .ok root ∧ root.document = .ok text ∧
            root.under "devices" "controller" =
              controllerNodes (.ofDevices (.initial arch cd) devices) := by
  constructor
  · rw [nodup_typedIndices_controllerNodes, DeviceClasses.nextController_initial]
  · intro fresh req config stores stored text hstored hclassified h
    obtain ⟨root, hroot, hdocument⟩ := Request.build_ok_iff.mp h
    have hshape := wellShaped_of_mayReturn (Request.mayReturn_root hroot)
    obtain ⟨stored', hstored', sizingNodes, -, cpuNode, -, ns, hns, rfl⟩ :=
      Request.exists_stored hroot
    obtain rfl : stored = stored' := Except.ok.inj (hstored.symm.trans hstored')
    rw [hclassified] at hns
    refine ⟨_, hroot, hdocument, ?_⟩
    rw [hshape.under_eq (n := .element "devices" [] ns) _ rfl]
    · exact filter_controller_deviceNodes hns
    · exact List.mem_append_left _ (List.mem_append_right _ (List.mem_singleton_self _))

/-- Two virtio-serial controllers, and a stored SCSI controller before a virtio-scsi one: each pair
shares an index once it is completed, although what is stored of other types differs. -/
theorem controllers_not_nodup :
    let serialTwice : List Device :=
      [.plain ⟨⟨1⟩, default⟩ .controller "virtio-serial",
        .plain ⟨⟨2⟩, default⟩ .controller "virtio-serial"]
    let scsiTwice : List Device :=
      [{ Device.plain ⟨⟨1⟩, default⟩ .controller "scsi" with
          parameters := SortedMap.empty.insert "index" (.string "0") },
        .plain ⟨⟨2⟩, default⟩ .controller "virtio-scsi"]
    ∀ devices ∈ [serialTwice, scsiTwice],
      (((devices.filterMap DeviceClasses.controller?).filter Controller.isKept).filterMap
        Controller.typedIndex?).Nodup ∧
      ¬ (typedIndices (controllerNodes (.ofDevices (.initial .x86_64 .ide) devices))).Nodup := by
  decide +kernel

end Descriptor

open Descriptor

namespace Fixture

/-- A machine with a virtio-serial controller, two virtio-scsi controllers, and a SCSI and a USB
controller that are stored with an index. -/
def withControllers : Fixture :=
  let indexed (index : String) := SortedMap.empty.insert "index" (.string index)
  plain (plainMachine none [] [])
    [.plain ⟨⟨1⟩, default⟩ .controller "virtio-serial",
      .plain ⟨⟨2⟩, default⟩ .controller "virtio-scsi",
      { Device.plain ⟨⟨3⟩, default⟩ .controller "scsi" with parameters := indexed "5" },
      .plain ⟨⟨4⟩, default⟩ .controller "virtio-scsi",
      { Device.plain ⟨⟨5⟩, default⟩ .controller "usb" with parameters := indexed "0" }]

/-- No two of the five controllers in the document share their type and index. -/
theorem controllers_nodup_withControllers :
    ∃ text root, (withControllers.build (.constant default) .empty).result = .ok text ∧
      withControllers.root (.constant default) .empty = .ok root ∧ root.document = .ok text ∧
      typedIndices (root.under "devices" "controller") =
        [(some "virtio-serial", "0"), (some "scsi", "0"), (some "scsi", "5"), (some "scsi", "1"),
          (some "usb", "0")] ∧
      (typedIndices (root.under "devices" "controller")).Nodup := by
  have hok : ∃ text, (withControllers.build (.constant default) .empty).result = .ok text :=
    exists_ok_iff.mpr ⟨by decide +kernel, by decide +kernel, by decide +kernel⟩
  obtain ⟨text, h⟩ := hok
  obtain ⟨hapart, hbuild⟩ := controllers_nodup_iff .x86_64 .ide
    (withControllers.startDevices (.constant default))
  obtain ⟨root, hroot, hdocument, hcontrollers⟩ := hbuild _ _ _ _ _ _ rfl rfl h
  refine ⟨text, root, h, hroot, hdocument, ?_, ?_⟩
  · rw [hcontrollers]
    decide +kernel
  · rw [hcontrollers, hapart]
    exact ⟨by decide +kernel, by decide +kernel, by decide +kernel⟩

end Fixture

end VmDescriptor
