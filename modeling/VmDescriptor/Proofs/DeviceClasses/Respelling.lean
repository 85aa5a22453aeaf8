import Mathlib.Data.Option.Basic
import VmDescriptor.Proofs.Device.Parameters
import VmDescriptor.Proofs.DeviceClasses.Distribution

/-!
Devices whose parameters are stored as strings.

Whether a number or truth value is stored as such or as a string makes no difference to a
peripheral, but for a number that is to be a truth value: it is refused, and its text is false. So
two lists of devices that differ in nothing but this are distributed alike, and what is described
of the first is described of the second as well.
-/

namespace VmDescriptor

namespace Device

/-- The second device is the first one with any numbers and truth values among its parameters
stored as strings. -/
structure Respelled (d d' : Device) : Prop where
  parameters : d.parameters.Respelled d'.parameters
  rest : d' = { d with parameters := d'.parameters }

/-- The device with the value of a parameter stored as a string. -/
def respell (d : Device) (key : String) : Device :=
  match d.parameters.get? key with
  | some j => { d with parameters := d.parameters.insert key j.spelledOut }
  | none => d

variable {d d' : Device}

lemma respelled_respell (d : Device) (key : String) : d.Respelled (d.respell key) := by
  unfold respell
  cases h : d.parameters.get? key with
  | none => exact ⟨fun _ => .inl rfl, rfl⟩
  | some j => exact ⟨Parameters.respelled_insert h, rfl⟩

namespace Respelled

variable (h : d.Respelled d')

include h

lemma type : d'.type = d.type := by
  rw [h.rest]

lemma subtype : d'.subtype = d.subtype := by
  rw [h.rest]

lemma address : d'.address = d.address := by
  rw [h.rest]

lemma plugged : d'.plugged = d.plugged := by
  rw [h.rest]

lemma isPayload : d'.isPayload = d.isPayload :=
  Parameters.contains_respelled (h.parameters payloadKey)

end Respelled

end Device

namespace Peripheral

/-- The first device is refused for a number that is to be a truth value; the second one, which
has the text of the number, is not. -/
inductive Rescued (d d' : Device) : Prop where
  | console (htype : d.type = .console)
      (hread : ∃ type, d.parameters.string? "consoleType" = .ok type)
      (hnumber : d.parameters.NumberSpelledOut d'.parameters "enableSocket")
  | hostDevice (htype : d.type = .hostdev)
      (hnumber : d.parameters.NumberSpelledOut d'.parameters "iommuPlaceholder")

lemma Rescued.isType {d d' : Device} (h : Rescued d d') : isType d.type := by
  cases h with
  | console htype => rw [htype]; rfl
  | hostDevice htype => rw [htype]; rfl

section

variable {d d' : Device} (h : d.Respelled d')

include h

lemma controller_respelled : controller d' = controller d := by
  unfold controller
  rw [Parameters.string?_respelled (h.parameters _), Parameters.nat?_respelled (h.parameters _),
    Parameters.nat?_respelled (h.parameters _), h.subtype]

lemma video_respelled : video d' = video d := by
  unfold video
  simp only [Parameters.nat?_respelled (h.parameters _), h.subtype]

lemma display_respelled : display d' = display d := by
  unfold display
  rw [Parameters.string?_respelled (h.parameters _), h.subtype]

lemma rng_respelled : rng d' = rng d := by
  unfold rng
  simp only [Parameters.string_respelled (h.parameters _),
    Parameters.nat?_respelled (h.parameters _)]

lemma console_respelled (hrescued : ¬ Rescued d d') (htype : d.type = .console) :
    console d' = console d := by
  unfold console
  rw [Parameters.string?_respelled (h.parameters _)]
  cases hread : d.parameters.string? "consoleType" with
  | error e => rfl
  | ok type =>
    rw [Parameters.boolean?_respelled (h.parameters _)]
    exact fun hnumber => hrescued (.console htype ⟨type, hread⟩ hnumber)

/-- A device that is not rescued is read the same. -/
lemma kind?_respelled (hrescued : ¬ Rescued d d') (ix : DiskIndices) :
    kind? d' ix = kind? d ix := by
  unfold kind?
  dsimp only
  rw [h.type]
  cases htype : d.type with
  | controller => rw [controller_respelled h]
  | video => rw [video_respelled h]
  | graphics => rw [display_respelled h]
  | rng => rw [rng_respelled h]
  | console => rw [console_respelled h hrescued htype]
  | hostdev =>
    have hnumber : ¬ d.parameters.NumberSpelledOut d'.parameters "iommuPlaceholder" :=
      fun hnumber => hrescued (.hostDevice htype hnumber)
    rw [Parameters.boolean?_respelled (h.parameters _) hnumber, h.subtype]
  | sound => rw [h.subtype]
  | _ =>
    simp only [Parameters.string?_respelled (h.parameters _),
      Parameters.string_respelled (h.parameters _)]

/-- A rescued device is an error before and a peripheral after, which takes no index. -/
lemma kind?_of_rescued (hrescued : Rescued d d') (ix : DiskIndices) :
    (∃ e, kind? d ix = .error e) ∧ ∃ kind, kind? d' ix = .ok (some (kind, ix)) := by
  unfold kind?
  dsimp only
  rw [h.type]
  cases hrescued with
  | console htype hread hnumber =>
    obtain ⟨type, hread⟩ := hread
    have hread' : d'.parameters.string? "consoleType" = .ok type :=
      (Parameters.string?_respelled (h.parameters _)).trans hread
    obtain ⟨n, hn, hs⟩ := hnumber
    obtain ⟨herror, hok⟩ := Parameters.boolean?_of_number hn hs
    unfold console
    rw [htype, hread, hread', herror, hok]
    exact ⟨⟨_, rfl⟩, _, rfl⟩
  | hostDevice htype hnumber =>
    obtain ⟨n, hn, hs⟩ := hnumber
    obtain ⟨herror, hok⟩ := Parameters.boolean?_of_number hn hs
    rw [htype, herror, hok]
    exact ⟨⟨_, rfl⟩, _, rfl⟩

end

end Peripheral

namespace DeviceClasses

open Peripheral

section

variable {d d' : Device} (h : d.Respelled d')

include h

/-- The rescued devices are those that are skipped before and peripherals after. -/
lemma rescued_iff (hplugged : d.plugged) : Rescued d d' ↔ isSkipped d ∧ isPeripheral d' := by
  let ix : DiskIndices := .initial .x86_64 .ide
  have husable (d : Device) : Usable d ↔ ∃ k, kind? d ix = .ok (some k) := exists_kind?_iff.symm
  constructor
  · intro hrescued
    obtain ⟨⟨e, herror⟩, kind, hkind⟩ := kind?_of_rescued h hrescued ix
    exact ⟨isSkipped_iff.mpr ⟨hplugged, .inr (.inr (exists_error_iff.mp ⟨e, herror⟩))⟩,
      isPeripheral_iff.mpr ⟨h.plugged.trans hplugged, (husable d').mpr ⟨_, hkind⟩⟩⟩
  · rintro ⟨hskipped, hperipheral⟩
    by_contra hrescued
    have hbefore : isPeripheral d := by
      rw [isPeripheral_iff, husable, ← kind?_respelled h hrescued, ← husable]
      exact ⟨hplugged, (isPeripheral_iff.mp hperipheral).2⟩
    -- No device passes two of the tests.
    have hcount := countP_tests_add d
    simp [tests, otherTests, hbefore, hskipped, hplugged, List.countP_cons] at hcount
    omega

end

/-- The second classes are the first ones, but for the parameters of the devices that they hold,
and may have more peripherals for fewer notices. -/
structure Respelled (cs cs' : DeviceClasses) : Prop where
  interfaces : List.Forall₂ (fun i i' => i'.kind = i.kind ∧ i.device.Respelled i'.device)
    cs.interfaces cs'.interfaces
  disks : List.Forall₂ Device.Respelled cs.disks cs'.disks
  cdroms : List.Forall₂ Device.Respelled cs.cdroms cs'.cdroms
  floppy : Option.Rel Device.Respelled cs.floppy cs'.floppy
  indices : cs'.indices = cs.indices
  peripherals : cs.peripherals.Sublist cs'.peripherals
  notices : cs'.notices.Sublist cs.notices

/-- The peripherals and the notices of two classes are the same. -/
def DescribedAlike (cs cs' : DeviceClasses) : Prop :=
  cs'.peripherals = cs.peripherals ∧ cs'.notices = cs.notices

section

variable {cs cs' : DeviceClasses} {d d' : Device}

lemma respelled_withNotice (hcs : cs.Respelled cs') (n : Notice) :
    (cs.withNotice n).Respelled (cs'.withNotice n) :=
  { hcs with notices := hcs.notices.append_right [n] }

lemma respelled_chooseFloppy {before before' : Option Device}
    (hbefore : Option.Rel Device.Respelled before before') (h : d.Respelled d') :
    Option.Rel Device.Respelled (chooseFloppy before d) (chooseFloppy before' d') := by
  unfold chooseFloppy
  cases hbefore with
  | none => exact .some h
  | some hd =>
    rw [Option.any_some, Option.any_some, hd.isPayload]
    split
    · exact .some hd
    · exact .some h

lemma respelled_addDisk (hcs : cs.Respelled cs') (h : d.Respelled d') :
    (cs.addDisk d).Respelled (cs'.addDisk d') := by
  unfold addDisk
  rw [h.subtype]
  split_ifs
  · exact { hcs with cdroms := List.rel_append hcs.cdroms (.cons h .nil) }
  · exact { hcs with disks := List.rel_append hcs.disks (.cons h .nil) }
  · exact { hcs with floppy := respelled_chooseFloppy hcs.floppy h }
  · exact respelled_withNotice hcs _

lemma respelled_addInterface (hcs : cs.Respelled cs') (h : d.Respelled d') :
    (cs.addInterface d).Respelled (cs'.addInterface d') := by
  unfold addInterface
  rw [h.subtype]
  split
  · exact { hcs with interfaces := List.rel_append hcs.interfaces (.cons ⟨rfl, h⟩ .nil) }
  · exact respelled_withNotice hcs _

lemma respelled_addPeripheral (hcs : cs.Respelled cs') (h : d.Respelled d') :
    (cs.addPeripheral d).Respelled (cs'.addPeripheral d') := by
  unfold addPeripheral
  rw [hcs.indices, h.subtype, h.address]
  by_cases hrescued : Rescued d d'
  · obtain ⟨⟨e, herror⟩, kind, hkind⟩ := kind?_of_rescued h hrescued cs.indices
    rw [herror, hkind]
    exact ⟨hcs.interfaces, hcs.disks, hcs.cdroms, hcs.floppy, rfl,
      hcs.peripherals.trans (List.sublist_append_left _ _),
      hcs.notices.trans (List.sublist_append_left _ _)⟩
  · rw [kind?_respelled h hrescued]
    split
    · exact { hcs with indices := rfl, peripherals := hcs.peripherals.append_right _ }
    · exact hcs
    · exact respelled_withNotice hcs _

/-- What one device adds. -/
lemma respelled_add (hcs : cs.Respelled cs') (h : d.Respelled d') :
    (cs.add d).Respelled (cs'.add d') := by
  unfold add
  rw [h.plugged, h.type]
  split
  · exact hcs
  · split
    · exact respelled_addDisk hcs h
    · exact respelled_addInterface hcs h
    · exact respelled_addPeripheral hcs h

/-! ### Equal peripherals and notices -/

lemma describedAlike_withNotice_iff (n : Notice) :
    DescribedAlike (cs.withNotice n) (cs'.withNotice n) ↔ DescribedAlike cs cs' := by
  rw [DescribedAlike, DescribedAlike, withNotice, withNotice, List.append_left_inj]

lemma describedAlike_addDisk_iff (h : d.Respelled d') :
    DescribedAlike (cs.addDisk d) (cs'.addDisk d') ↔ DescribedAlike cs cs' := by
  unfold addDisk
  rw [h.subtype]
  split_ifs
  · exact .rfl
  · exact .rfl
  · exact .rfl
  · exact describedAlike_withNotice_iff _

lemma describedAlike_addInterface_iff (h : d.Respelled d') :
    DescribedAlike (cs.addInterface d) (cs'.addInterface d') ↔ DescribedAlike cs cs' := by
  unfold addInterface
  rw [h.subtype]
  split
  · exact .rfl
  · exact describedAlike_withNotice_iff _

/-- Once a device is rescued there are too few peripherals before. -/
lemma describedAlike_addPeripheral_iff (hcs : cs.Respelled cs') (h : d.Respelled d') :
    DescribedAlike (cs.addPeripheral d) (cs'.addPeripheral d') ↔
      DescribedAlike cs cs' ∧ ¬ Rescued d d' := by
  unfold addPeripheral
  rw [hcs.indices, h.subtype, h.address]
  by_cases hrescued : Rescued d d'
  · obtain ⟨⟨e, herror⟩, kind, hkind⟩ := kind?_of_rescued h hrescued cs.indices
    rw [herror, hkind]
    refine iff_of_false (fun hsame => ?_) fun hsame => hsame.2 hrescued
    have hlength := congrArg List.length hsame.1
    have hle := hcs.peripherals.length_le
    simp only [withNotice, List.length_append, List.length_singleton] at hlength
    omega
  · rw [kind?_respelled h hrescued, and_iff_left hrescued]
    split
    · rw [DescribedAlike, DescribedAlike, List.append_left_inj]
    · exact .rfl
    · exact describedAlike_withNotice_iff _

lemma describedAlike_add_iff (hcs : cs.Respelled cs') (h : d.Respelled d') :
    DescribedAlike (cs.add d) (cs'.add d') ↔
      DescribedAlike cs cs' ∧ ¬ (d.plugged ∧ Rescued d d') := by
  have hother {type : DeviceType} (htype : d.type = type) (htype' : isType type = false) :
      ¬ (d.plugged ∧ Rescued d d') :=
    fun hrescued => Bool.false_ne_true (htype'.symm.trans (htype ▸ hrescued.2.isType))
  unfold add
  rw [h.plugged, h.type]
  split
  next hplugged =>
    have hunplugged : ¬ d.plugged := by simpa using hplugged
    rw [and_iff_left fun hrescued => hunplugged hrescued.1]
  next hplugged =>
    split
    next htype => rw [and_iff_left (hother htype rfl), describedAlike_addDisk_iff h]
    next htype => rw [and_iff_left (hother htype rfl), describedAlike_addInterface_iff h]
    next =>
      have hplugged : d.plugged := by simpa using hplugged
      rw [and_iff_right hplugged, describedAlike_addPeripheral_iff hcs h]

lemma respelled_initial (ix : DiskIndices) : (initial ix).Respelled (initial ix) :=
  ⟨.nil, .nil, .nil, .none, rfl, .refl _, .refl _⟩

/-- Lists of devices that are respelled one by one are distributed alike. -/
lemma respelled_foldl {ds ds' : List Device} (hds : List.Forall₂ Device.Respelled ds ds')
    (hcs : cs.Respelled cs') :
    (ds.foldl add cs).Respelled (ds'.foldl add cs') ∧
      (DescribedAlike (ds.foldl add cs) (ds'.foldl add cs') ↔
        DescribedAlike cs cs' ∧
          ∀ r ∈ ds.zip ds', ¬ (r.1.plugged ∧ Rescued r.1 r.2)) := by
  induction hds generalizing cs cs' with
  | nil => exact ⟨hcs, by simp⟩
  | cons h _ ih =>
    obtain ⟨hrespelled, halike⟩ := ih (respelled_add hcs h)
    refine ⟨hrespelled, halike.trans ?_⟩
    rw [describedAlike_add_iff hcs h, List.zip_cons_cons, List.forall_mem_cons, and_assoc]

end

/-- A console whose socket is a number. -/
def numberedConsole : Device :=
  { Device.plain ⟨⟨1⟩, default⟩ .console "virtio" with
    parameters := .ofList [("enableSocket", .int 1)] }

/-- A video adapter whose number of displays is a number. -/
def numberedVideo : Device :=
  { Device.plain ⟨⟨2⟩, default⟩ .video "qxl" with
    parameters := .ofList [("heads", .int 2)] }

/-- A disk whose size is a number. -/
def numberedDisk : Device :=
  { Device.plain ⟨⟨3⟩, default⟩ .disk "disk" with
    parameters := .ofList [("size", .int 1)] }

/-- **Parameters as strings**: with any numbers and truth values stored as strings the parameters
of a device are read alike, but for numbers that are read as truth values. So of two lists of
devices that differ in nothing else the classes are the same but for the parameters of the devices
in them, and the peripherals and notices are the same just when no plugged console or host device
is refused for such a number. -/
theorem respelled_and_describedAlike_iff :
    (∀ (d : Device) (key : String), d.Respelled (d.respell key)) ∧
      (∀ d d' : Device, d.Respelled d' →
        (∀ key, d.parameters.ReadAlike d'.parameters key) ∧
          (d.plugged → (Rescued d d' ↔ isSkipped d ∧ isPeripheral d'))) ∧
      ∀ (ix : DiskIndices) (ds ds' : List Device), List.Forall₂ Device.Respelled ds ds' →
        (ofDevices ix ds).Respelled (ofDevices ix ds') ∧
          (DescribedAlike (ofDevices ix ds) (ofDevices ix ds') ↔
            ∀ r ∈ ds.zip ds', ¬ (r.1.plugged ∧ Rescued r.1 r.2)) := by
  refine ⟨Device.respelled_respell, fun d d' h => ⟨fun key => ?_, rescued_iff h⟩,
    fun ix ds ds' h => ?_⟩
  · exact Parameters.readAlike_of_respelledAt (h.parameters key)
  · obtain ⟨hrespelled, halike⟩ := respelled_foldl h (respelled_initial ix)
    exact ⟨hrespelled, halike.trans (and_iff_right ⟨rfl, rfl⟩)⟩

/-- The video adapter is described alike, and the console is not. -/
theorem respelled_numberedVideo_and_numberedConsole :
    let ix : DiskIndices := .initial .x86_64 .ide
    let video := numberedVideo.respell "heads"
    let console := numberedConsole.respell "enableSocket"
    numberedVideo.Respelled video ∧ numberedConsole.Respelled console ∧
      numberedVideo.parameters.nat? "heads" = .ok (some 2) ∧
      video.parameters.nat? "heads" = .ok (some 2) ∧
      DescribedAlike (ofDevices ix [numberedVideo]) (ofDevices ix [video]) ∧
      ¬ DescribedAlike (ofDevices ix [numberedVideo, numberedConsole])
        (ofDevices ix [video, console]) := by
  obtain ⟨hrespell, hread, halike⟩ := respelled_and_describedAlike_iff
  have hvideo := hrespell numberedVideo "heads"
  have hconsole := hrespell numberedConsole "enableSocket"
  have hrescued : Rescued numberedConsole (numberedConsole.respell "enableSocket") :=
    .console rfl ⟨none, rfl⟩ ⟨.integer 1, rfl, rfl⟩
  refine ⟨hvideo, hconsole, rfl, ((hread _ _ hvideo).1 "heads").number.trans rfl, ?_, ?_⟩
  · refine (halike _ _ _ (.cons hvideo .nil)).2.mpr ?_
    rw [List.zip_cons_cons, List.zip_nil_left, List.forall_mem_singleton]
    rintro ⟨-, h⟩
    cases h with
    | console htype => cases htype
    | hostDevice htype => cases htype
  · rw [(halike _ _ _ (.cons hvideo (.cons hconsole .nil))).2]
    exact fun h => h _ (List.mem_cons_of_mem _ List.mem_cons_self) ⟨rfl, hrescued⟩

/-- A console whose socket is a number is an error, and one whose socket is the text of the number
is described; a disk keeps what is stored. -/
theorem numberedConsole_and_numberedDisk_differ :
    let ix : DiskIndices := .initial .x86_64 .ide
    let console := numberedConsole.respell "enableSocket"
    console.parameters.get? "enableSocket" = some (.string "1") ∧
      numberedConsole.parameters.boolean? "enableSocket" = .error (.invalid "enableSocket" "1") ∧
      console.parameters.boolean? "enableSocket" = .ok (some false) ∧
      (ofDevices ix [numberedConsole]).peripherals = [] ∧
      (ofDevices ix [console]).peripherals = [⟨.console ⟨"virtio", false⟩, .empty⟩] ∧
      (ofDevices ix [numberedConsole]).notices =
        [.unusableParameters "virtio" (.invalid "enableSocket" "1")] ∧
      (ofDevices ix [console]).notices = [] ∧
      (ofDevices ix [numberedDisk.respell "size"]).disks ≠ (ofDevices ix [numberedDisk]).disks := by
  refine ⟨rfl, rfl, rfl, rfl, rfl, rfl, rfl, fun h => ?_⟩
  have hsize := congrArg (List.map (·.parameters.get? "size")) h
  cases hsize

end DeviceClasses

end VmDescriptor
