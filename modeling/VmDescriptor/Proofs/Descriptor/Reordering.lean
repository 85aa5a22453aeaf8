import VmDescriptor.Proofs.BootOrder
import VmDescriptor.Proofs.Descriptor.DiskElements
import VmDescriptor.Proofs.RunOnce

/-!
Builds from reordered lists.

The targets of disks depend on the devices as a set, if these have identities of their own: on the
device of each disk and on whether there are CD-ROMs. The order in which a machine lists its disks
does not count at all, as long as their names tell them apart.
-/

namespace VmDescriptor

open Program Xml

namespace Descriptor

/-! ### Reordered devices -/

/-- What is found in a list is found in a reordered one if nothing else could be found. -/
lemma find?_eq_of_perm {α : Type} {l l' : List α} {p : α → Bool} (h : l.Perm l')
    (hunique : ∀ a ∈ l, ∀ b ∈ l, p a → p b → a = b) : l.find? p = l'.find? p := by
  cases hl : l.find? p with
  | none =>
    refine (List.find?_eq_none.mpr fun b hb => ?_).symm
    exact List.find?_eq_none.mp hl b (h.mem_iff.mpr hb)
  | some a =>
    have ha := List.mem_of_find?_eq_some hl
    have hpa := List.find?_some hl
    have hsome : (l'.find? p).isSome := List.find?_isSome.mpr ⟨a, h.mem_iff.mp ha, hpa⟩
    obtain ⟨b, hb⟩ := Option.isSome_iff_exists.mp hsome
    rw [hb, hunique a ha b (h.mem_iff.mpr (List.mem_of_find?_eq_some hb)) hpa (List.find?_some hb)]

section

variable {vm : Uuid} {disk : Disk} {devices devices' : List Device}

lemma deviceOf?_append :
    deviceOf? vm (devices ++ devices') disk =
      (deviceOf? vm devices' disk).or (deviceOf? vm devices disk) := by
  simp only [deviceOf?, List.filter_append, List.reverse_append, List.find?_append]

lemma deviceOf?_of_perm (hids : (devices.map (·.id)).Nodup) (h : devices.Perm devices') :
    deviceOf? vm devices disk = deviceOf? vm devices' disk := by
  have hperm : (devices.filter (DeviceClasses.isDiskOf "disk")).reverse.Perm
      (devices'.filter (DeviceClasses.isDiskOf "disk")).reverse :=
    (List.reverse_perm _).trans ((h.filter _).trans (List.reverse_perm _).symm)
  refine find?_eq_of_perm hperm fun a ha b hb hida hidb => ?_
  have hmem {d : Device} (hd : d ∈ (devices.filter (DeviceClasses.isDiskOf "disk")).reverse) :
      d ∈ devices := List.mem_of_mem_filter (List.mem_reverse.mp hd)
  refine List.inj_on_of_nodup_map hids (hmem ha) (hmem hb) ?_
  rw [of_decide_eq_true hida, of_decide_eq_true hidb]

end

/-- The device of a disk is a stored one, or the payload of the run in its place. -/
lemma deviceOf?_devices {fresh : FreshIds} {vm : VirtualMachine} {payload : Option Device}
    {stored : List Device} {id : Uuid} {disk : Disk} :
    deviceOf? id (RunOnce.devices fresh vm payload stored) disk =
      deviceOf? id (RunOnce.withPayload (RunOnce.runPayload? vm payload) stored) disk := by
  have hboot (ds : List Device) :
      (ds.filter RunOnce.mayBoot).filter (DeviceClasses.isDiskOf "disk") =
        ds.filter (DeviceClasses.isDiskOf "disk") := by
    rw [List.filter_filter]
    refine List.filter_congr fun d _ => ?_
    cases hd : DeviceClasses.isDiskOf "disk" d with
    | false => rfl
    | true =>
      obtain ⟨htype, hsubtype⟩ := DeviceClasses.of_isDiskOf hd
      simp [RunOnce.mayBoot, htype, hsubtype]
  unfold deviceOf?
  rw [← hboot, RunOnce.filter_devices, hboot]

lemma deviceOf?_devices_of_perm {fresh : FreshIds} {vm : VirtualMachine} {payload : Option Device}
    {stored stored' : List Device} (hids : (stored.map (·.id)).Nodup) (h : stored.Perm stored')
    (id : Uuid) (disk : Disk) :
    deviceOf? id (RunOnce.devices fresh vm payload stored) disk =
      deviceOf? id (RunOnce.devices fresh vm payload stored') disk := by
  rw [deviceOf?_devices, deviceOf?_devices]
  cases RunOnce.runPayload? vm payload with
  | none => exact deviceOf?_of_perm hids h
  | some p =>
    have hkept : ((stored.filter (!·.isPayload)).map (·.id)).Nodup :=
      hids.sublist (List.filter_sublist.map _)
    simp only [RunOnce.withPayload, deviceOf?_append, deviceOf?_of_perm hkept (h.filter _)]

lemma cdromNumbers_of_perm {cd : CdInterface} {vm : VirtualMachine} {cdroms cdroms' : List Device}
    (h : cdroms.Perm cdroms') : cdromNumbers cd vm cdroms = cdromNumbers cd vm cdroms' := by
  have hpayloads : (payloads cdroms).length = (payloads cdroms').length :=
    (h.filter _).length_eq
  have huser : (userDevice? cdroms).isSome = (userDevice? cdroms').isSome := by
    rw [Bool.eq_iff_iff, userDevice?, userDevice?, List.find?_isSome, List.find?_isSome]
    simp only [h.mem_iff]
  rw [cdromNumbers, cdromNumbers, hpayloads, hasUserCdrom, hasUserCdrom, huser]

/-- The numbering of disks goes by their devices and by what is skipped. -/
lemma DiskEntries.congr {vm : VirtualMachine} {devices devices' : List Device}
    {skipped : DiskInterface → List Nat} {entries : List DiskEntry}
    (h : DiskEntries vm devices skipped entries)
    (hdevice : ∀ disk, deviceOf? vm.id devices disk = deviceOf? vm.id devices' disk) :
    DiskEntries vm devices' skipped entries := by
  obtain ⟨hplugged, hdevices, hordered, hindex⟩ := h
  simp only [hdevice] at hplugged hdevices
  exact ⟨hplugged, hdevices, hordered, hindex⟩

/-! ### Reordered disks -/

section

variable (fresh : FreshIds) (req : Request) (config : BuildConfig)

/-- A descriptor depends on the disks as they are sorted. -/
theorem domain_of_perm {disks' : List Disk} (hkeys : (req.vm.disks.map sortKey).Nodup)
    (h : req.vm.disks.Perm disks') :
    domain fresh { req with vm := { req.vm with disks := disks' } } config =
      domain fresh req config := by
  have hsorted : sortedDisks disks' = sortedDisks req.vm.disks :=
    (sortedDisks_eq_of_perm hkeys h).symm
  have horder (cs : DeviceClasses) :
      bootOrder { req.vm with disks := disks' } cs = bootOrder req.vm cs :=
    (BootOrder.compute_of_perm h).symm
  have hnodes (cs : DeviceClasses) :
      deviceNodes { req with vm := { req.vm with disks := disks' } } config cs =
        deviceNodes req config cs := by
    unfold deviceNodes disks
    simp only [hsorted, horder]
    rfl
  unfold domain
  simp only [hnodes]
  rfl

end

end Descriptor

/-! ### Builds from an inventory -/

namespace Fixture

open Descriptor

/-- The fixture with other devices stored. -/
def withDevices (f : Fixture) (devices : List Device) : Fixture :=
  { f with inventory := { f.inventory with devices } }

/-- The fixture with other disks of the machine. -/
def withDisks (f : Fixture) (disks : List Disk) : Fixture :=
  { f with vm := { f.vm with disks } }

variable {f : Fixture} {fresh : FreshIds} {config : EngineConfig} {devices' : List Device}

lemma startDevices_perm (h : f.inventory.devices.Perm devices') :
    (f.startDevices fresh).Perm ((f.withDevices devices').startDevices fresh) :=
  RunOnce.devices_perm f.payload (h.filter _)

lemma deviceOf?_startDevices (hids : (f.inventory.devices.map (·.id)).Nodup)
    (h : f.inventory.devices.Perm devices') (disk : Disk) :
    deviceOf? f.vm.id (f.startDevices fresh) disk =
      deviceOf? f.vm.id ((f.withDevices devices').startDevices fresh) disk := by
  have hstored : ((f.inventory.devicesOf f.vm.id).map (·.id)).Nodup :=
    hids.sublist (List.filter_sublist.map _)
  exact deviceOf?_devices_of_perm hstored (h.filter _) f.vm.id disk

/-- Whether a build succeeds does not depend on the order of the devices. -/
lemma exists_ok_withDevices_iff (hids : (f.inventory.devices.map (·.id)).Nodup)
    (h : f.inventory.devices.Perm devices') :
    (∃ text, ((f.withDevices devices').build fresh config).result = .ok text) ↔
      ∃ text, (f.build fresh config).result = .ok text := by
  have hnetwork : (f.withDevices devices').networkFailure? fresh config = none ↔
      f.networkFailure? fresh config = none := by
    rw [← displayNetworkKnown_iff, ← displayNetworkKnown_iff]
    unfold DisplayNetworkKnown
    simp only [(startDevices_perm h).mem_iff]
    rfl
  have hdisk (disk : Disk) :
      (f.withDevices devices').diskFailure? fresh disk = f.diskFailure? fresh disk := by
    have hdevice : (f.withDevices devices').diskDevice? fresh disk = f.diskDevice? fresh disk :=
      (deviceOf?_startDevices hids h disk).symm
    unfold diskFailure? storageFailure? diskQos?
    rw [hdevice]
    rfl
  rw [exists_ok_iff, exists_ok_iff, hnetwork]
  simp only [hdisk]
  rfl

variable (f fresh config) in
/-- The disk elements of a descriptor are those of the machine's disks with these indices, and have
their targets. -/
def WritesTargets (root : Node) (entries : List DiskEntry) : Prop :=
  ∃ nodes, DiskElements (givenBy (.ofInventory f.inventory)) f.vm (.resolve config f.vm)
      (f.startDevices fresh) (elementsNamed "disk" [root]) entries nodes ∧
    nodes.map targets = (entries.filter (·.device.managed)).map fun e => [e.target]

lemma exists_writesTargets {text : String} (h : (f.build fresh config).result = .ok text) :
    ∃ root entries, f.root fresh config = .ok root ∧ root.document = .ok text ∧
      f.WritesTargets fresh config root entries := by
  obtain ⟨root, hroot, hdocument⟩ := Request.build_ok_iff.mp h
  obtain ⟨devices, hdevices, hnamed⟩ := exists_devices hroot
  obtain ⟨entries, nodes, helements⟩ := exists_diskElements hdevices
  rw [← hnamed "disk" isDeviceName_disk] at helements
  exact ⟨root, entries, hroot, hdocument, nodes, helements,
    map_eq_of_forall₂ helements.described fun _ _ hn => hn.2⟩

/-- The disks of a machine have the same indices whatever the order of the devices. -/
lemma WritesTargets.eq_of_perm (hids : (f.inventory.devices.map (·.id)).Nodup)
    (h : f.inventory.devices.Perm devices') {root root' : Node} {entries entries' : List DiskEntry}
    (hroot : f.WritesTargets fresh config root entries)
    (hroot' : (f.withDevices devices').WritesTargets fresh config root' entries') :
    entries' = entries := by
  obtain ⟨nodes, helements, -⟩ := hroot
  obtain ⟨nodes', helements', -⟩ := hroot'
  have hcdroms : (cdromsOf (f.startDevices fresh)).Perm
      (cdromsOf ((f.withDevices devices').startDevices fresh)) := (startDevices_perm h).filter _
  have hnumbered := helements.numbered.congr (deviceOf?_startDevices hids h)
  unfold skippedIndices at hnumbered
  rw [cdromNumbers_of_perm hcdroms] at hnumbered
  exact helements'.numbered.unique hnumbered

/-- **List order does not count for names**: if devices have identities of their own, their order
changes neither whether a build succeeds nor the target of any disk. If names tell the disks apart,
their order changes nothing about a build. -/
theorem build_reordered (f : Fixture) (fresh : FreshIds) (config : EngineConfig) :
    ((f.inventory.devices.map (·.id)).Nodup → ∀ devices', f.inventory.devices.Perm devices' →
      ((∃ text, ((f.withDevices devices').build fresh config).result = .ok text) ↔
        ∃ text, (f.build fresh config).result = .ok text) ∧
      ∀ text text', (f.build fresh config).result = .ok text →
        ((f.withDevices devices').build fresh config).result = .ok text' →
        ∃ root root' entries, f.root fresh config = .ok root ∧ root.document = .ok text ∧
          (f.withDevices devices').root fresh config = .ok root' ∧ root'.document = .ok text' ∧
          f.WritesTargets fresh config root entries ∧
          (f.withDevices devices').WritesTargets fresh config root' entries) ∧
    ((f.vm.disks.map sortKey).Nodup → ∀ disks', f.vm.disks.Perm disks' →
      (f.withDisks disks').build fresh config = f.build fresh config) := by
  refine ⟨fun hids devices' h => ⟨exists_ok_withDevices_iff hids h, ?_⟩, fun hkeys disks' h => ?_⟩
  · intro text text' htext htext'
    obtain ⟨root, entries, hroot, hdocument, htargets⟩ := exists_writesTargets htext
    obtain ⟨root', entries', hroot', hdocument', htargets'⟩ := exists_writesTargets htext'
    obtain rfl := htargets.eq_of_perm hids h htargets'
    exact ⟨root, root', _, hroot, hdocument, hroot', hdocument', htargets, htargets'⟩
  · have hdomain : domain fresh (f.withDisks disks').request (.resolve config f.vm) =
        domain fresh f.request (.resolve config f.vm) := domain_of_perm _ f.request _ hkeys h
    have hdescriptor : (f.withDisks disks').request.descriptor fresh (.resolve config f.vm) =
        f.request.descriptor fresh (.resolve config f.vm) := by
      rw [Request.descriptor_eq, Request.descriptor_eq, hdomain]
    unfold build Request.build
    change ((f.withDisks disks').request.descriptor fresh (.resolve config f.vm)).sharing.run _ = _
    rw [hdescriptor]
    rfl

/-- A machine with the IDE disks `a` and `b`, and with a display. -/
def withNamedDisks : Fixture :=
  plain (plainMachine none
      [{ plainDisk ⟨1⟩ .ide with name := "b" }, { plainDisk ⟨2⟩ .ide with name := "a" }] [])
    [.plain ⟨⟨1⟩, default⟩ .disk "disk", .plain ⟨⟨2⟩, default⟩ .disk "disk",
      .plain ⟨⟨3⟩, default⟩ .graphics "vnc", .plain ⟨⟨4⟩, default⟩ .disk "cdrom"]

/-- Its build succeeds, and with the lists turned round as well. -/
theorem build_reordered_namedDisks :
    (∃ text text' root root' entries,
      (withNamedDisks.build (.constant default) .empty).result = .ok text ∧
      ((withNamedDisks.withDevices withNamedDisks.inventory.devices.reverse).build
        (.constant default) .empty).result = .ok text' ∧
      withNamedDisks.WritesTargets (.constant default) .empty root entries ∧
      (withNamedDisks.withDevices withNamedDisks.inventory.devices.reverse).WritesTargets
        (.constant default) .empty root' entries) ∧
    (withNamedDisks.withDisks withNamedDisks.vm.disks.reverse).build (.constant default) .empty =
      withNamedDisks.build (.constant default) .empty := by
  obtain ⟨hdevices, hdisks⟩ := build_reordered withNamedDisks (.constant default) .empty
  have hok : ∃ text, (withNamedDisks.build (.constant default) .empty).result = .ok text :=
    exists_ok_iff.mpr ⟨by decide +kernel, by decide +kernel, by decide +kernel⟩
  obtain ⟨hiff, htargets⟩ :=
    hdevices (by decide) withNamedDisks.inventory.devices.reverse (List.reverse_perm _).symm
  obtain ⟨text, htext⟩ := hok
  obtain ⟨text', htext'⟩ := hiff.mpr ⟨text, htext⟩
  obtain ⟨root, root', entries, -, -, -, -, hroot, hroot'⟩ := htargets text text' htext htext'
  exact ⟨⟨text, text', root, root', entries, htext, htext', hroot, hroot'⟩,
    hdisks (by decide) _ (List.reverse_perm _).symm⟩

end Fixture

end VmDescriptor
