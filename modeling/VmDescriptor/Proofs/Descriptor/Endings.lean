import VmDescriptor.Proofs.Descriptor.DiskOrder
import VmDescriptor.Proofs.Descriptor.Failures

/-!
How builds from an inventory end.

An inventory answers every lookup but that of a display network which it does not know. So a
build fails only for want of a display network or of the storage of an image, unless a product
does not fit its width; the display network is missed first, then the storage of the first disk
in the order of the descriptor.
-/

namespace VmDescriptor

open Program

/-! ### What an inventory does not know -/

namespace Inventory

variable (inv : Inventory)

/-- What a display fails with if the display network of its cluster is not known. -/
def displayFailure? (cluster : Uuid) : Option BuildError :=
  match inv.displayNetworkOf cluster with
  | .ok _ => none
  | .error e => some (.lookup e)

/-- What an image fails with if it is on no storage domain or on one that is not known. -/
def imageFailure? (disk : Uuid) (image : ImageVolume) : Option BuildError :=
  match image.domains.head? with
  | none => some (.noStorageForImage disk)
  | some domain =>
    if (inv.storageDomain? domain).isSome then none
    else some (.missingStorageDomain disk domain)

/-- What a disk fails with for want of its storage. -/
def diskFailure? (disk : Disk) : Option BuildError :=
  match disk.backend with
  | .image image => inv.imageFailure? disk.id image
  | _ => none

variable {inv}

lemma exists_answer {c : Lookup} (h : ∀ cluster, c ≠ .displayNetwork cluster) :
    ∃ a, inv.answer c = .ok a := by
  cases c with
  | displayNetwork cluster => exact absurd rfl (h cluster)
  | _ => exact ⟨_, rfl⟩

lemma displayFailure?_eq_none_iff {cluster : Uuid} :
    inv.displayFailure? cluster = none ↔ inv.displayNetworks.get? cluster = none ∨
      ∃ id, inv.displayNetworks.get? cluster = some id ∧ ∃ network ∈ inv.networks,
        network.id = id := by
  have hknown (id : Uuid) : (inv.network? id).isSome ↔ ∃ network ∈ inv.networks,
      network.id = id := by
    simp [network?]
  unfold displayFailure? displayNetworkOf
  cases inv.displayNetworks.get? cluster with
  | none => simp
  | some id =>
    simp only [reduceCtorEq, false_or, Option.some.injEq, exists_eq_left', ← hknown]
    cases inv.network? id <;> simp

lemma displayFailure?_eq_some {cluster : Uuid} {e : BuildError}
    (h : inv.displayFailure? cluster = some e) :
    ∃ id, inv.displayNetworks.get? cluster = some id ∧
      e = .lookup (.inconsistent .network cluster.text
        ("display network " ++ id.text ++ " is not a known network")) := by
  unfold displayFailure? displayNetworkOf at h
  cases hid : inv.displayNetworks.get? cluster with
  | none => simp [hid] at h
  | some id =>
    cases hnetwork : inv.network? id with
    | some network => simp [hid, hnetwork] at h
    | none =>
      simp only [hid, hnetwork, Option.some.injEq] at h
      exact ⟨id, rfl, h.symm⟩

lemma imageFailure?_eq_none_iff {disk : Uuid} {image : ImageVolume} :
    inv.imageFailure? disk image = none ↔
      ∃ domain, image.domains.head? = some domain ∧ ∃ known ∈ inv.storageDomains,
        known.id = domain := by
  unfold imageFailure?
  cases image.domains.head? with
  | none => simp
  | some domain =>
    have hknown : (inv.storageDomain? domain).isSome ↔ ∃ known ∈ inv.storageDomains,
        known.id = domain := by
      simp [storageDomain?]
    simp only [Option.some.injEq, exists_eq_left', ← hknown]
    cases inv.storageDomain? domain <;> simp

end Inventory

/-! ### How the programs of a descriptor end -/

namespace Descriptor

variable {inv : Inventory} {fresh : FreshIds} {req : Request} {config : BuildConfig}

lemma endsWith_sizing {answer : FixedAnswers} {vm : VirtualMachine} :
    EndsWith answer (sizing vm config) none :=
  endsWith_none (fun _ h => absurd h not_mayAsk_sizing) fun _ => eq_overflow_of_sizing

lemma endsWith_cpu {answer : FixedAnswers} {vm : VirtualMachine} {params : CreateParams} :
    EndsWith answer (cpu vm config params) none :=
  endsWith_none (fun _ h => absurd h not_mayAsk_cpu) fun _ => eq_overflow_of_cpu

lemma endsWith_peripheral {vm : VirtualMachine} {host : Uuid} (p : Peripheral) :
    EndsWith inv.answer (peripheral vm host config p)
      (if DeviceClasses.isDisplay p then inv.displayFailure? vm.cluster else none) := by
  by_cases hdisplay : ∃ e, DeviceClasses.isDisplay p ∧ inv.displayNetworkOf vm.cluster = .error e
  · obtain ⟨e, hp, he⟩ := hdisplay
    have hfailure : inv.displayFailure? vm.cluster = some (.lookup e) := by
      rw [Inventory.displayFailure?, he]
    rw [if_pos hp, hfailure]
    obtain ⟨kind, a⟩ := p
    cases kind <;> simp only [DeviceClasses.isDisplay, Bool.false_eq_true] at hp
    refine .inr ?_
    simp only [peripheral, eval_bind]
    simp only [lookup, eval, Inventory.answer, he]
    rfl
  · have hnone : (if DeviceClasses.isDisplay p then inv.displayFailure? vm.cluster else none) =
        none := by
      split
      next hp =>
        unfold Inventory.displayFailure?
        split
        next => rfl
        next e he => exact absurd ⟨e, hp, he⟩ hdisplay
      next => rfl
    rw [hnone]
    refine endsWith_none (fun c hc => ?_) fun _ h => absurd h not_mayFail_peripheral
    rcases mayAsk_peripheral hc with rfl | ⟨rfl, hp⟩
    · exact ⟨_, rfl⟩
    · cases hanswer : inv.displayNetworkOf vm.cluster with
      | ok network => exact ⟨network, hanswer⟩
      | error e => exact absurd ⟨e, hp, hanswer⟩ hdisplay

lemma endsWith_interfaceNodes {vm : VirtualMachine} {order : BootOrder} (d : InterfaceDevice) :
    EndsWith inv.answer (interfaceNodes vm order d) none :=
  endsWith_none (fun _ h => Inventory.exists_answer (mayAsk_interfaceNodes h).2)
    fun _ h => absurd h not_mayFail_interfaceNodes

lemma endsWith_diskStorage (disk : Disk) :
    EndsWith inv.answer (diskStorage disk) (inv.diskFailure? disk) := by
  unfold diskStorage Inventory.diskFailure? Inventory.imageFailure?
  cases hbackend : disk.backend with
  | image image =>
    cases hdomain : image.domains.head? with
    | none =>
      simp only [hdomain]
      exact endsWith_fail _
    | some domain =>
      have hanswer : inv.answer (.storageDomain domain) = .ok (inv.storageDomain? domain) := rfl
      simp only [hdomain]
      refine endsWith_lookup_bind hanswer ?_
      cases inv.storageDomain? domain with
      | none => exact endsWith_fail _
      | some found =>
        cases hprofile : image.profile with
        | none => exact endsWith_pure _
        | some profile =>
          have hqos : inv.answer (.storageQos profile) = .ok (inv.storageQos? profile) := rfl
          exact endsWith_lookup_bind hqos (endsWith_pure _)
  | lun v => exact endsWith_pure _
  | network v => exact endsWith_pure _

lemma endsWith_disk (d : PlacedDisk) : EndsWith inv.answer (disk config d) none :=
  endsWith_none (fun _ h => absurd h not_mayAsk_disk) fun _ => eq_overflow_of_disk

/-- The disks with a managed device keep their order. -/
lemma filterMap_indexedDisks {β : Type} {vm : Uuid} {devices : List Device}
    (get : Disk → Option β) (disks : List Disk) (ix : DiskIndices) :
    ((indexedDisks vm devices disks ix).filter (·.2.1.managed)).filterMap (fun x => get x.1) =
      disks.filterMap fun disk =>
        if (devices.reverse.find? (·.id = ⟨disk.id, vm⟩)).any (·.managed) then get disk
        else none := by
  induction disks generalizing ix with
  | nil => rfl
  | cons disk rest ih =>
    rw [indexedDisks, List.filterMap_cons]
    cases devices.reverse.find? (·.id = ⟨disk.id, vm⟩) with
    | none => simpa using ih ix
    | some device =>
      cases hmanaged : device.managed <;> simp [hmanaged, List.filterMap_cons, ih]

/-- What the first disk with a managed device fails with that fails. -/
lemma findSome?_indexedDisks {ε : Type} {vm : Uuid} {devices : List Device}
    (find : Disk → Option ε) (disks : List Disk) (ix : DiskIndices) :
    ((indexedDisks vm devices disks ix).filter (·.2.1.managed)).findSome? (fun x => find x.1) =
      disks.findSome? fun disk =>
        if (devices.reverse.find? (·.id = ⟨disk.id, vm⟩)).any (·.managed) then find disk
        else none := by
  rw [← List.head?_filterMap, filterMap_indexedDisks, List.head?_filterMap]

lemma endsWith_disks {vm : VirtualMachine} {devices : List Device} {order : BootOrder}
    {ix : DiskIndices} :
    EndsWith inv.answer (disks vm config devices order ix)
      ((sortedDisks vm.disks).findSome? fun disk =>
        if (devices.reverse.find? (·.id = ⟨disk.id, vm.id⟩)).any (·.managed) then
          inv.diskFailure? disk
        else none) := by
  rw [← findSome?_indexedDisks inv.diskFailure? (sortedDisks vm.disks) ix]
  exact endsWith_mapM fun x _ => (endsWith_diskStorage x.1).bind_none fun _ _ => endsWith_disk _

/-- Peripherals fail only with the display network, and only if a display is among them. -/
lemma findSome?_peripherals {cluster : Uuid} (ps : List Peripheral) :
    (ps.findSome? fun p => if DeviceClasses.isDisplay p then inv.displayFailure? cluster
        else none) =
      if ps.any DeviceClasses.isDisplay then inv.displayFailure? cluster else none := by
  induction ps with
  | nil => simp
  | cons p rest ih =>
    rw [List.findSome?_cons, ih]
    by_cases hp : DeviceClasses.isDisplay p
    · cases hfailure : inv.displayFailure? cluster <;> simp [hp]
    · simp [hp]

lemma endsWith_deviceNodes {cs : DeviceClasses} :
    EndsWith inv.answer (deviceNodes req config cs)
      ((if cs.peripherals.any DeviceClasses.isDisplay then
          inv.displayFailure? req.vm.cluster else none).or
        ((sortedDisks req.vm.disks).findSome? fun disk =>
          if (cs.disks.reverse.find? (·.id = ⟨disk.id, req.vm.id⟩)).any (·.managed) then
            inv.diskFailure? disk
          else none)) := by
  rw [← findSome?_peripherals]
  have hnotices : EndsWith inv.answer (notices cs.notices) none :=
    endsWith_none (fun _ h => absurd h (not_mayAsk_notices _)) (by simp)
  have hinterfaces : EndsWith inv.answer
      (cs.interfaces.mapM (interfaceNodes req.vm (bootOrder req.vm cs))) none := by
    have hnone : (cs.interfaces.findSome? fun _ => (none : Option BuildError)) = none :=
      List.findSome?_eq_none_iff.mpr fun _ _ => rfl
    rw [← hnone]
    exact endsWith_mapM fun d _ => endsWith_interfaceNodes d
  exact hnotices.bind fun _ _ => (endsWith_mapM fun p _ => endsWith_peripheral p).bind fun _ _ =>
    hinterfaces.bind fun _ _ => endsWith_disks.bind_none fun _ _ => endsWith_pure _

/-- A descriptor ends as its devices do. -/
lemma endsWith_domain {failure : Option BuildError}
    (h : EndsWith inv.answer (deviceNodes req config
      (classified fresh req config (inv.devicesOf req.vm.id))) failure) :
    EndsWith inv.answer (domain fresh req config) failure := by
  have hstored : inv.answer (.devicesForVm req.vm.id) = .ok (inv.devicesOf req.vm.id) := rfl
  exact endsWith_sizing.bind fun _ _ => endsWith_cpu.bind fun _ _ =>
    endsWith_lookup_bind hstored (h.bind_none fun _ _ => endsWith_pure _)

end Descriptor

/-! ### Builds from an inventory -/

namespace Fixture

open Descriptor

variable (f : Fixture) (fresh : FreshIds)

/-- The device of a disk: the last plugged one of the machine's disks with its identity. -/
def diskDevice? (disk : Disk) : Option Device :=
  ((f.startDevices fresh).filter (DeviceClasses.isDiskOf "disk")).reverse.find?
    (·.id = ⟨disk.id, f.vm.id⟩)

/-- If the machine is started with a display, then its cluster has no display network or one that
is known. -/
def DisplayNetworkKnown : Prop :=
  (¬ ∃ d ∈ f.startDevices fresh, DeviceClasses.DescribesDisplay d) ∨
    f.inventory.displayNetworks.get? f.vm.cluster = none ∨
    ∃ id, f.inventory.displayNetworks.get? f.vm.cluster = some id ∧
      ∃ network ∈ f.inventory.networks, network.id = id

/-- Every image with a managed device is on a storage domain, of which the first is known. -/
def ImagesStored : Prop :=
  ∀ disk ∈ f.vm.disks, ∀ device, f.diskDevice? fresh disk = some device → device.managed →
    ∀ image, disk.backend = .image image →
      ∃ domain, image.domains.head? = some domain ∧
        ∃ known ∈ f.inventory.storageDomains, known.id = domain

/-- What a disk with a managed device fails with for want of its storage. -/
def storageFailure? (disk : Disk) : Option BuildError :=
  if (f.diskDevice? fresh disk).any (·.managed) then f.inventory.diskFailure? disk else none

variable {f fresh}

lemma storageFailure?_eq_none_iff {disk : Disk} :
    f.storageFailure? fresh disk = none ↔
      ∀ device, f.diskDevice? fresh disk = some device → device.managed →
        ∀ image, disk.backend = .image image →
          ∃ domain, image.domains.head? = some domain ∧
            ∃ known ∈ f.inventory.storageDomains, known.id = domain := by
  unfold storageFailure? Inventory.diskFailure?
  cases f.diskDevice? fresh disk with
  | none => simp
  | some device =>
    cases hmanaged : device.managed with
    | false => simp [hmanaged]
    | true =>
      cases hbackend : disk.backend <;>
        simp [hmanaged, Inventory.imageFailure?_eq_none_iff]

lemma imagesStored_iff :
    f.ImagesStored fresh ↔ (sortedDisks f.vm.disks).findSome? (f.storageFailure? fresh) = none := by
  simp only [ImagesStored, List.findSome?_eq_none_iff, storageFailure?_eq_none_iff,
    (sortedDisks_perm f.vm.disks).mem_iff]

variable {config : EngineConfig}

variable (f fresh config) in
/-- What the displays of the machine fail with for want of the display network. -/
def networkFailure? : Option BuildError :=
  if (f.classes fresh config).peripherals.any DeviceClasses.isDisplay then
    f.inventory.displayFailure? f.vm.cluster
  else none

variable (config) in
lemma displayNetworkKnown_iff :
    f.DisplayNetworkKnown fresh ↔ f.networkFailure? fresh config = none := by
  have hdisplay : (f.classes fresh config).peripherals.any DeviceClasses.isDisplay ↔
      ∃ d ∈ f.startDevices fresh, DeviceClasses.DescribesDisplay d :=
    List.any_eq_true.trans (DeviceClasses.exists_display_ofDevices _ _)
  unfold DisplayNetworkKnown networkFailure?
  rw [← hdisplay, ← Inventory.displayFailure?_eq_none_iff]
  by_cases h : (f.classes fresh config).peripherals.any DeviceClasses.isDisplay <;> simp [h]

variable (config) in
lemma endsWith_root :
    EndsWith f.inventory.answer (domain fresh f.request (.resolve config f.vm))
      ((f.networkFailure? fresh config).or
        ((sortedDisks f.vm.disks).findSome? (f.storageFailure? fresh))) := by
  have hdisks : (f.classes fresh config).disks =
      (f.startDevices fresh).filter (DeviceClasses.isDiskOf "disk") :=
    DeviceClasses.disks_ofDevices _ _
  have h : EndsWith f.inventory.answer (deviceNodes f.request (.resolve config f.vm)
      (f.classes fresh config)) _ := endsWith_deviceNodes
  rw [hdisks] at h
  exact endsWith_domain h

/-- Unless a product does not fit its width, a build ends as its domain element does. -/
lemma result_of_endsWith {failure : Option BuildError}
    (h : EndsWith f.inventory.answer (domain fresh f.request (.resolve config f.vm)) failure)
    (hoverflow : (f.build fresh config).result ≠ .error .overflow) :
    (failure = none → ∃ text, (f.build fresh config).result = .ok text) ∧
      ∀ e, failure = some e → (f.build fresh config).result = .error e := by
  have herror (e : BuildError) : (f.build fresh config).result = .error e ↔
      (domain fresh f.request (.resolve config f.vm)).eval f.inventory.answer = .error e := by
    rw [← root_eq_eval]
    exact Request.build_error_iff
  rw [ne_eq, herror] at hoverflow
  constructor
  · rintro rfl
    obtain ⟨root, h⟩ := h.exists_ok hoverflow
    exact ⟨_, Request.build_ok_iff.mpr ⟨root, (f.root_eq_eval fresh config).trans h,
      root.document_eq⟩⟩
  · rintro e rfl
    exact (herror e).mpr (h.eq_error hoverflow)

/-- **Builds fail only for want of entities**: unless a product does not fit its width, a build
from an inventory succeeds just when the display network and the storage of images are known. The
display network is missed first, then the storage of the first disk in order. -/
theorem build_ok_iff_entities_known
    (hoverflow : (f.build fresh config).result ≠ .error .overflow) :
    ((∃ text, (f.build fresh config).result = .ok text) ↔
      f.DisplayNetworkKnown fresh ∧ f.ImagesStored fresh) ∧
    (¬ f.DisplayNetworkKnown fresh →
      ∃ id, f.inventory.displayNetworks.get? f.vm.cluster = some id ∧
        (f.build fresh config).result = .error (.lookup (.inconsistent .network f.vm.cluster.text
          ("display network " ++ id.text ++ " is not a known network")))) ∧
    (f.DisplayNetworkKnown fresh → ¬ f.ImagesStored fresh →
      ∃ i disk e, f.vm.disks[i]? = some disk ∧ f.storageFailure? fresh disk = some e ∧
        (∀ j disk', f.vm.disks[j]? = some disk' → (f.storageFailure? fresh disk').isSome → j ≠ i →
          ComesBefore (disk, i) (disk', j)) ∧
        (f.build fresh config).result = .error e) := by
  obtain ⟨hok, herror⟩ := result_of_endsWith (endsWith_root config) hoverflow
  rw [displayNetworkKnown_iff config, imagesStored_iff]
  refine ⟨⟨?_, ?_⟩, ?_, ?_⟩
  · rintro ⟨text, htext⟩
    refine Option.or_eq_none_iff.mp (Option.eq_none_iff_forall_ne_some.mpr fun e he => ?_)
    rw [herror e he] at htext
    cases htext
  · exact fun h => hok (Option.or_eq_none_iff.mpr h)
  · intro hunknown
    obtain ⟨e, he⟩ := Option.ne_none_iff_exists'.mp hunknown
    have hresult := herror e (by rw [he]; rfl)
    unfold networkFailure? at he
    split at he
    · obtain ⟨id, hid, rfl⟩ := Inventory.displayFailure?_eq_some he
      exact ⟨id, hid, hresult⟩
    · cases he
  · intro hknown hmissing
    obtain ⟨e, he⟩ := Option.ne_none_iff_exists'.mp hmissing
    obtain ⟨i, disk, hdisk, hfailure, hfirst⟩ := exists_first_of_findSome? he
    exact ⟨i, disk, e, hdisk, hfailure, hfirst, herror e (by rw [hknown, he]; rfl)⟩

/-- A machine with a display and an image, whose network and domain are known. -/
def withEntities : Fixture :=
  let machine := plainMachine none
    [{ plainDisk ⟨1⟩ .virtio with backend := .image ⟨default, [⟨7⟩], default, .raw, none⟩ }] []
  let stored := plain machine
    [.plain ⟨⟨1⟩, default⟩ .disk "disk", .plain ⟨⟨2⟩, default⟩ .graphics "spice"]
  { stored with
    inventory := { stored.inventory with
      networks := [⟨⟨8⟩, "display", "display", none⟩]
      displayNetworks := .ofList [(default, ⟨8⟩)]
      storageDomains := [⟨⟨7⟩, .nfs⟩] } }

/-- Its build succeeds, so all that it needs is known. -/
theorem entities_known_of_build_ok :
    (withEntities.build (.constant default) .empty).result ≠ .error .overflow ∧
      (∃ text, (withEntities.build (.constant default) .empty).result = .ok text) ∧
      withEntities.DisplayNetworkKnown (.constant default) ∧
      withEntities.ImagesStored (.constant default) := by
  obtain ⟨text, h⟩ := Program.exists_ok
    (r := (withEntities.build (.constant default) .empty).result) (by decide +kernel)
  have hoverflow : (withEntities.build (.constant default) .empty).result ≠ .error .overflow := by
    rw [h]
    simp
  exact ⟨hoverflow, ⟨text, h⟩, (build_ok_iff_entities_known hoverflow).1.mp ⟨text, h⟩⟩

end Fixture

end VmDescriptor
