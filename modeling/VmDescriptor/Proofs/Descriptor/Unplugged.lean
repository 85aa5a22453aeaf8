import VmDescriptor.Proofs.Descriptor.Failures
import VmDescriptor.Proofs.RunOnce

/-!
Builds without the unplugged devices.

A descriptor depends on the stored devices only through the classes of those that the machine is
started with, and unplugged devices are in no class. They still count when it is decided whether
a run gets a floppy.
-/

namespace VmDescriptor

open Program RunOnce

/-! ### What a descriptor depends on -/

namespace Descriptor

variable {fresh : FreshIds} {req : Request} {config : BuildConfig} {inv inv' : Inventory}

/-- Inventories that differ in devices only give the same descriptor if the devices that the
machine is started with are of the same classes. -/
theorem eval_domain_congr (hanswer : ∀ c, c.store ≠ .device → inv.answer c = inv'.answer c)
    (hclasses : classified fresh req config (inv.devicesOf req.vm.id) =
      classified fresh req config (inv'.devicesOf req.vm.id)) :
    (domain fresh req config).eval inv.answer = (domain fresh req config).eval inv'.answer := by
  have hsizing : (sizing req.vm config).eval inv.answer = (sizing req.vm config).eval inv'.answer :=
    eval_congr fun _ hc => absurd hc not_mayAsk_sizing
  have hcpu : (cpu req.vm config req.params).eval inv.answer =
      (cpu req.vm config req.params).eval inv'.answer :=
    eval_congr fun _ hc => absurd hc not_mayAsk_cpu
  have hdevices (cs : DeviceClasses) : (deviceNodes req config cs).eval inv.answer =
      (deviceNodes req config cs).eval inv'.answer :=
    eval_congr fun c hc => hanswer c (mayAsk_deviceNodes hc)
  have hstored (inv : Inventory) : (lookup (.devicesForVm req.vm.id)).eval inv.answer =
      pure (inv.devicesOf req.vm.id) := rfl
  have hpure (root : Xml.Node) (inv : Inventory) :
      (pure root : Program Xml.Node).eval inv.answer = .ok root := rfl
  simp only [domain, eval_bind, hsizing, hcpu, hstored, hdevices, pure_bind, hclasses, hpure]

end Descriptor

/-! ### Builds from an inventory -/

namespace Fixture

/-- The fixture without its unplugged devices. -/
def withoutUnplugged (f : Fixture) : Fixture :=
  { f with inventory := { f.inventory with devices := f.inventory.devices.filter (·.plugged) } }

variable {f : Fixture} {fresh : FreshIds} {config : EngineConfig}

lemma devicesOf_withoutUnplugged (vm : Uuid) :
    f.withoutUnplugged.inventory.devicesOf vm = plugged (f.inventory.devicesOf vm) :=
  List.filter_comm ..

/-- The classes of a list of devices are those of the plugged ones. -/
lemma classes_eq : f.classes fresh config =
    .ofDevices (.initial f.vm.arch (BuildConfig.resolve config f.vm).cdInterface)
      (plugged (f.startDevices fresh)) :=
  (DeviceClasses.ofDevices_filter_plugged _ _).symm

lemma startDevices_withoutUnplugged : f.withoutUnplugged.startDevices fresh =
    RunOnce.devices fresh f.vm f.payload (plugged (f.inventory.devicesOf f.vm.id)) := by
  rw [← devicesOf_withoutUnplugged]
  rfl

/-- A build depends on the unplugged devices through the classes of the devices started with. -/
lemma result_withoutUnplugged
    (hclasses : f.withoutUnplugged.classes fresh config = f.classes fresh config) :
    (f.withoutUnplugged.build fresh config).result = (f.build fresh config).result := by
  have hanswer (c : Lookup) (hc : c.store ≠ .device) :
      f.withoutUnplugged.inventory.answer c = f.inventory.answer c := by
    cases c with
    | devicesForVm vm => exact absurd rfl hc
    | _ => rfl
  have hroot : f.withoutUnplugged.root fresh config = f.root fresh config := by
    rw [root_eq_eval, root_eq_eval]
    exact Descriptor.eval_domain_congr hanswer hclasses
  have hresult (g : Fixture) : (g.build fresh config).result =
      g.root fresh config >>= fun root => root.document.mapError .document :=
    Request.result_build
  rw [hresult, hresult, hroot]

/-- **Unplugged devices do not count**, unless they alone keep a run from getting a floppy: then
without them the floppy is among the devices described, and nothing else changes. -/
theorem build_withoutUnplugged :
    (¬ FloppyHeldBack fresh f.vm f.payload (f.inventory.devicesOf f.vm.id) →
      (f.withoutUnplugged.build fresh config).result = (f.build fresh config).result) ∧
    (FloppyHeldBack fresh f.vm f.payload (f.inventory.devicesOf f.vm.id) →
      f.withoutUnplugged.classes fresh config =
        (f.classes fresh config).add (addedFloppy fresh f.vm)) := by
  obtain ⟨hsame, hheldBack⟩ := plugged_devices_plugged fresh f.vm f.payload
    (f.inventory.devicesOf f.vm.id)
  rw [← startDevices_withoutUnplugged] at hsame hheldBack
  constructor
  · intro hfree
    refine result_withoutUnplugged ?_
    rw [classes_eq, classes_eq, hsame hfree]
    rfl
  · intro hheld
    rw [classes_eq, classes_eq, hheldBack hheld, DeviceClasses.ofDevices, List.foldl_append]
    rfl

/-- A machine with an unplugged disk and a path for a floppy, which may be run once. -/
def withUnpluggedDisk (runOnce : Bool) : Fixture :=
  plain { plainMachine none [] [] with runOnce, floppyPath := some "/drivers.vfd" }
    [{ Device.plain ⟨⟨1⟩, default⟩ .disk "disk" with plugged := false }]

/-- The disk does not count in a normal start, and holds back the floppy of a run. -/
theorem build_withUnpluggedDisk :
    ¬ FloppyHeldBack (.constant default) (withUnpluggedDisk false).vm none
        ((withUnpluggedDisk false).inventory.devicesOf default) ∧
      ((withUnpluggedDisk false).withoutUnplugged.build (.constant default) .empty).result =
        ((withUnpluggedDisk false).build (.constant default) .empty).result ∧
      FloppyHeldBack (.constant default) (withUnpluggedDisk true).vm none
        ((withUnpluggedDisk true).inventory.devicesOf default) ∧
      (withUnpluggedDisk true).withoutUnplugged.classes (.constant default) .empty =
        ((withUnpluggedDisk true).classes (.constant default) .empty).add
          (addedFloppy (.constant default) (withUnpluggedDisk true).vm) := by
  have hfree : ¬ FloppyHeldBack (.constant default) (withUnpluggedDisk false).vm none
      ((withUnpluggedDisk false).inventory.devicesOf default) :=
    fun h => absurd h.runOnce (by decide)
  have hheld : FloppyHeldBack (.constant default) (withUnpluggedDisk true).vm none
      ((withUnpluggedDisk true).inventory.devicesOf default) :=
    ⟨rfl, by decide, by decide, by decide⟩
  exact ⟨hfree, build_withoutUnplugged.1 hfree, hheld, build_withoutUnplugged.2 hheld⟩

/-- Without the disk the run has a floppy. -/
theorem build_withUnpluggedDisk_ne :
    ((withUnpluggedDisk true).withoutUnplugged.build (.constant default) .empty).result ≠
      ((withUnpluggedDisk true).build (.constant default) .empty).result := by
  decide +kernel

end Fixture

end VmDescriptor
