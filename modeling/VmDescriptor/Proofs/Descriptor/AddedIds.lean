import VmDescriptor.Proofs.Encoder.Domain
import VmDescriptor.Proofs.RunOnce

/-!
The identifiers of the devices that are added for a run.

Boot positions, disks and NICs are found by the identities of disks, CD-ROMs and interfaces. No
device that is added for a run is one of these, so its made-up identifier is never looked at,
whatever other devices have the same.
-/

namespace VmDescriptor

/-- The device without an identity of its own. -/
def Device.anonymous (d : Device) : Device :=
  { d with id := default }

namespace RunOnce

/-- The device, without its identity if it is of no class that may be booted from. -/
def forgetId (d : Device) : Device :=
  if mayBoot d then d else d.anonymous

lemma forgetId_of_mayBoot {d : Device} (h : mayBoot d) : forgetId d = d :=
  if_pos h

lemma forgetId_of_not_mayBoot {d : Device} (h : mayBoot d = false) : forgetId d = d.anonymous :=
  if_neg (by simp [h])

/-- What is not read off the identity is the same without it. -/
lemma congr_forgetId {α : Type} {f : Device → α} (h : ∀ d, f d.anonymous = f d) (d : Device) :
    f (forgetId d) = f d := by
  unfold forgetId
  split
  · rfl
  · exact h d

variable (fresh fresh' : FreshIds) (vm : VirtualMachine) (payload : Option Device)
  (stored : List Device)

lemma map_forgetId_beforeFloppy :
    (beforeFloppy fresh vm payload stored).map forgetId =
      (beforeFloppy fresh' vm payload stored).map forgetId := by
  have hvideo : (addedVideo fresh vm).map forgetId = (addedVideo fresh' vm).map forgetId := by
    rw [addedVideo, addedVideo, List.map_map, List.map_map]
    rfl
  have hgraphics :
      (addedGraphics fresh vm).map forgetId = (addedGraphics fresh' vm).map forgetId := by
    unfold addedGraphics
    split
    · rfl
    · rw [List.map_map, List.map_map]
      rfl
  simp only [beforeFloppy_eq, besideFloppy, List.map_append, hvideo, hgraphics]

/-- Whether all devices are floppies is the same without their identities. -/
lemma forall_subtype_map_forgetId (ds : List Device) :
    (∀ d ∈ ds.map forgetId, d.subtype = Device.floppySubtype) ↔
      ∀ d ∈ ds, d.subtype = Device.floppySubtype := by
  have hsubtype (d : Device) : (forgetId d).subtype = d.subtype := congr_forgetId (fun _ => rfl) d
  simp only [List.forall_mem_map, hsubtype]

/-- Two starts of a machine have the same devices, but for the identities of added ones. -/
theorem map_forgetId_devices :
    (devices fresh vm payload stored).map forgetId =
      (devices fresh' vm payload stored).map forgetId := by
  have hbefore := map_forgetId_beforeFloppy fresh fresh' vm payload stored
  by_cases hrun : vm.runOnce
  · rw [devices_of_runOnce payload stored hrun, devices_of_runOnce payload stored hrun,
      List.map_append, List.map_append, hbefore]
    congr 1
    simp only [← forall_subtype_map_forgetId (beforeFloppy _ _ _ _), hbefore]
    split <;> rfl
  · rw [devices, devices, if_neg hrun, if_neg hrun]

end RunOnce

/-! ### Classes -/

namespace DeviceClasses

open RunOnce

/-- The classes with a floppy that has no identity. -/
def anonymousFloppy (cs : DeviceClasses) : DeviceClasses :=
  { cs with floppy := cs.floppy.map Device.anonymous }

variable (cs : DeviceClasses) (d : Device)

lemma serialConsole?_anonymousFloppy : cs.anonymousFloppy.serialConsole? = cs.serialConsole? := rfl

lemma chooseFloppy_anonymous (before : Option Device) :
    chooseFloppy (before.map Device.anonymous) d.anonymous =
      (chooseFloppy before d).map Device.anonymous := by
  have hpayload : (before.map Device.anonymous).any Device.isPayload =
      before.any Device.isPayload := by
    cases before <;> rfl
  unfold chooseFloppy
  rw [hpayload]
  split <;> rfl

lemma addDisk_forgetId (hdisk : d.type = .disk) :
    cs.anonymousFloppy.addDisk (forgetId d) = (cs.addDisk d).anonymousFloppy := by
  have hsubtype : (forgetId d).subtype = d.subtype := congr_forgetId (fun _ => rfl) d
  unfold addDisk
  rw [hsubtype]
  split_ifs with hcdrom hdiskSubtype hfloppy
  · rw [forgetId_of_mayBoot (by simp [mayBoot, hdisk, hcdrom])]
    rfl
  · rw [forgetId_of_mayBoot (by simp [mayBoot, hdisk, hdiskSubtype])]
    rfl
  · rw [forgetId_of_not_mayBoot (by simp [mayBoot, hdisk, hcdrom, hdiskSubtype])]
    exact congrArg (fun floppy => { cs with floppy }) (chooseFloppy_anonymous d cs.floppy)
  · rfl

lemma addInterface_forgetId (hinterface : d.type = .interface) :
    cs.anonymousFloppy.addInterface (forgetId d) = (cs.addInterface d).anonymousFloppy := by
  rw [forgetId_of_mayBoot (by simp [mayBoot, hinterface])]
  unfold addInterface
  split <;> rfl

lemma addPeripheral_forgetId :
    cs.anonymousFloppy.addPeripheral (forgetId d) = (cs.addPeripheral d).anonymousFloppy := by
  have hkind : Peripheral.kind? (forgetId d) cs.indices = Peripheral.kind? d cs.indices :=
    congr_forgetId (f := fun d => Peripheral.kind? d cs.indices) (fun _ => rfl) d
  have haddress : (forgetId d).address = d.address := congr_forgetId (fun _ => rfl) d
  have hsubtype : (forgetId d).subtype = d.subtype := congr_forgetId (fun _ => rfl) d
  have hindices : cs.anonymousFloppy.indices = cs.indices := rfl
  unfold addPeripheral
  rw [hindices, hkind, haddress, hsubtype]
  split <;> rfl

/-- A device adds the same without an identity, unless it may be booted from. -/
lemma add_forgetId : cs.anonymousFloppy.add (forgetId d) = (cs.add d).anonymousFloppy := by
  have hplugged : (forgetId d).plugged = d.plugged := congr_forgetId (fun _ => rfl) d
  have htype : (forgetId d).type = d.type := congr_forgetId (fun _ => rfl) d
  unfold add
  rw [hplugged, htype]
  split
  · rfl
  · split
    next hdisk => exact cs.addDisk_forgetId d hdisk
    next hinterface => exact cs.addInterface_forgetId d hinterface
    next => exact cs.addPeripheral_forgetId d

/-- The classes of a list hold no identity of a device that may not be booted from, but that of
the floppy. -/
theorem ofDevices_map_forgetId (ix : DiskIndices) (devices : List Device) :
    ofDevices ix (devices.map forgetId) = (ofDevices ix devices).anonymousFloppy := by
  have hfoldl (cs : DeviceClasses) :
      (devices.map forgetId).foldl add cs.anonymousFloppy =
        (devices.foldl add cs).anonymousFloppy := by
    induction devices generalizing cs with
    | nil => rfl
    | cons d rest ih => rw [List.map_cons, List.foldl_cons, add_forgetId, ih, List.foldl_cons]
  exact hfoldl (initial ix)

end DeviceClasses

/-! ### Builds -/

namespace Descriptor

/-- The identity of the floppy is not described. -/
lemma deviceNodes_anonymousFloppy (req : Request) (config : BuildConfig) (cs : DeviceClasses) :
    deviceNodes req config cs.anonymousFloppy = deviceNodes req config cs := by
  have hfloppy : (cs.floppy.map Device.anonymous).toList.map (floppy req.vm) =
      cs.floppy.toList.map (floppy req.vm) := by
    cases cs.floppy <;> rfl
  unfold deviceNodes
  dsimp only [DeviceClasses.anonymousFloppy]
  rw [hfloppy]
  rfl

variable (fresh fresh' : FreshIds) (req : Request) (config : BuildConfig)

/-- The classes of two starts are the same, but for the identity of an added floppy. -/
lemma anonymousFloppy_classified (stored : List Device) :
    (classified fresh req config stored).anonymousFloppy =
      (classified fresh' req config stored).anonymousFloppy := by
  unfold classified
  rw [← DeviceClasses.ofDevices_map_forgetId, ← DeviceClasses.ofDevices_map_forgetId,
    RunOnce.map_forgetId_devices fresh fresh']

theorem domain_congr_fresh : domain fresh req config = domain fresh' req config := by
  have hdevices (stored : List Device) :
      deviceNodes req config (classified fresh req config stored) =
        deviceNodes req config (classified fresh' req config stored) := by
    rw [← deviceNodes_anonymousFloppy, anonymousFloppy_classified fresh fresh',
      deviceNodes_anonymousFloppy]
  have hserial (stored : List Device) : (classified fresh req config stored).serialConsole? =
      (classified fresh' req config stored).serialConsole? := by
    rw [← DeviceClasses.serialConsole?_anonymousFloppy, anonymousFloppy_classified fresh fresh',
      DeviceClasses.serialConsole?_anonymousFloppy]
  unfold domain
  simp only [hdevices, hserial]

end Descriptor

/-- **Made-up identifiers do not matter**: whatever identifiers the devices get that are added for
a run, a build has the same result, makes the same lookups and reports the same notices. These are
warnings and errors; records of lower severity, which show no made-up identifier, are left out of
a build (see `Notice`). -/
theorem Request.build_congr_fresh (fresh fresh' : FreshIds) (req : Request)
    (config : EngineConfig) (stores : Stores) :
    req.build fresh config stores = req.build fresh' config stores := by
  unfold build
  rw [descriptor_eq, descriptor_eq, Descriptor.domain_congr_fresh fresh fresh']

end VmDescriptor
