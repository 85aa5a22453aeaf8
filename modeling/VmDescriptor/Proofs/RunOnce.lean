import Mathlib.Data.List.Basic
import VmDescriptor.Proofs.Descriptor.Builds

/-!
The devices of a run-once start.

Whatever the steps that make it, the list of a run is the stored devices that are not replaced,
and then those added for the run: displays, the payload and a floppy. So the disks, CD-ROMs and
interfaces are stored ones, in their order, before at most the payload. Unplugged devices decide
on nothing but whether a floppy is added.
-/

namespace VmDescriptor.RunOnce

variable {fresh : FreshIds} {vm : VirtualMachine} {ds : List Device}

/-! ### The list of a run -/

/-- The devices of a run before it is decided whether a floppy is added. -/
def beforeFloppy (fresh : FreshIds) (vm : VirtualMachine) (payload : Option Device)
    (stored : List Device) : List Device :=
  withPayload payload (withGraphics fresh vm (withVideo fresh vm stored))

/-- A device that is made up for a run: plugged, managed and without parameters. -/
def madeUp (id : Uuid) (vm : VirtualMachine) (type : DeviceType) (subtype : String) : Device where
  id := ⟨id, vm.id⟩
  type := type
  subtype := subtype
  parameters := .empty
  address := .empty
  bootOrder := 0
  plugged := true
  managed := true
  readOnly := false
  snapshot := none

/-- The floppy that is added for a run. -/
def addedFloppy (fresh : FreshIds) (vm : VirtualMachine) : Device :=
  { madeUp fresh.floppy vm .disk "floppy" with readOnly := true }

/-- The model of the video device that a display type stands for. -/
def videoModelOf : DisplayType → Option String
  | .none => none
  | .qxl => some "qxl"
  | .vga => some "vga"
  | .cirrus => some "cirrus"

/-- The video device of a run. -/
def addedVideo (fresh : FreshIds) (vm : VirtualMachine) : List Device :=
  (vm.displayType.bind videoModelOf).toList.map (madeUp fresh.video vm .video)

/-- The subtype of a display with a protocol. -/
def subtypeOf : GraphicsType → String
  | .spice => "spice"
  | .vnc => "vnc"

/-- The displays of a run: one for each protocol, unless the machine has no video. -/
def addedGraphics (fresh : FreshIds) (vm : VirtualMachine) : List Device :=
  if vm.displayType = some .none then []
  else vm.graphics.keys.map fun type => madeUp (fresh.graphics type) vm .graphics (subtypeOf type)

@[simp] lemma type_madeUp {id : Uuid} {type : DeviceType} {subtype : String} :
    (madeUp id vm type subtype).type = type := rfl

lemma videoModelOf_eq : videoModelOf = DisplayType.videoModel? := by
  funext display
  cases display <;> rfl

lemma subtypeOf_eq : subtypeOf = GraphicsType.name := by
  funext type
  cases type <;> rfl

/-- Whether a run has other video devices than those stored. -/
def replacesVideo (vm : VirtualMachine) : Bool :=
  vm.displayType.isSome

/-- Whether a run has other displays than those stored. -/
def replacesGraphics (vm : VirtualMachine) : Bool :=
  vm.displayType = some .none || !vm.graphics.isEmpty

/-- Whether a stored device is left out of a run. -/
def isReplaced (vm : VirtualMachine) (payload : Option Device) (d : Device) : Bool :=
  replacesVideo vm && d.type = .video || replacesGraphics vm && d.type = .graphics ||
    payload.isSome && d.parameters.contains "vmPayload"

lemma isReplaced_eq (vm : VirtualMachine) (payload : Option Device) (d : Device) :
    isReplaced vm payload d =
      (replacesVideo vm && d.type = .video || replacesGraphics vm && d.type = .graphics ||
        payload.isSome && d.isPayload) := rfl

/-- The devices of a run, but for the floppy: the stored ones that are not replaced, and then the
video device, the displays and the payload. -/
def besideFloppy (fresh : FreshIds) (vm : VirtualMachine) (payload : Option Device)
    (stored : List Device) : List Device :=
  stored.filter (!isReplaced vm payload ·) ++ addedVideo fresh vm ++ addedGraphics fresh vm ++
    payload.toList

lemma withVideo_eq : withVideo fresh vm ds =
    ds.filter (fun d => !(replacesVideo vm && d.type = .video)) ++ addedVideo fresh vm := by
  unfold withVideo replacesVideo addedVideo
  cases vm.displayType with
  | none => simp
  | some display =>
    simp only [bne, beq_eq_decide, Option.isSome_some, Bool.true_and, Option.bind_some,
      videoModelOf_eq]
    cases display.videoModel? <;> rfl

lemma withGraphics_eq : withGraphics fresh vm ds =
    ds.filter (fun d => !(replacesGraphics vm && d.type = .graphics)) ++
      addedGraphics fresh vm := by
  unfold withGraphics replacesGraphics addedGraphics
  rw [subtypeOf_eq]
  split_ifs with hnone hempty
  · simp [hnone, bne, beq_eq_decide]
  · have hkeys : vm.graphics.keys = [] := by
      rw [SortedMap.keys, List.isEmpty_iff.mp hempty, List.map_nil]
    simp [hnone, hempty, hkeys]
  · simp only [hempty, bne, beq_eq_decide, hnone, decide_false, Bool.false_or, Bool.not_false,
      Bool.true_and]
    rfl

lemma withPayload_eq {payload : Option Device} : withPayload payload ds =
    ds.filter (fun d => !(payload.isSome && d.isPayload)) ++ payload.toList := by
  cases payload <;> simp [withPayload]

/-- Added devices are plugged, managed and without parameters. -/
structure IsPlain (d : Device) : Prop where
  plugged : d.plugged
  managed : d.managed
  parameters : d.parameters = .empty

lemma isPlain_of_mem_addedVideo {d : Device} (h : d ∈ addedVideo fresh vm) : IsPlain d := by
  obtain ⟨model, -, rfl⟩ := List.mem_map.mp h
  exact ⟨rfl, rfl, rfl⟩

lemma isPlain_of_mem_addedGraphics {d : Device} (h : d ∈ addedGraphics fresh vm) : IsPlain d := by
  unfold addedGraphics at h
  split at h
  · cases h
  · obtain ⟨type, -, rfl⟩ := List.mem_map.mp h
    exact ⟨rfl, rfl, rfl⟩

lemma type_of_mem_addedGraphics {d : Device} (h : d ∈ addedGraphics fresh vm) :
    d.type = .graphics := by
  unfold addedGraphics at h
  split at h
  · cases h
  · obtain ⟨type, -, rfl⟩ := List.mem_map.mp h
    rfl

/-- A payload takes the place of no device without parameters. -/
lemma filter_of_isPlain {payload : Option Device} (h : ∀ d ∈ ds, IsPlain d) :
    ds.filter (fun d => !(payload.isSome && d.isPayload)) = ds := by
  rw [List.filter_eq_self]
  intro d hd
  have hpayload : d.isPayload = false := by
    rw [Device.isPayload, (h d hd).parameters]
    rfl
  rw [hpayload, Bool.and_false, Bool.not_false]

/-- What is added in one step is not taken away in a later one. -/
lemma beforeFloppy_eq (payload : Option Device) (stored : List Device) :
    beforeFloppy fresh vm payload stored = besideFloppy fresh vm payload stored := by
  have hstored : ((stored.filter fun d => !(replacesVideo vm && d.type = .video)).filter
      fun d => !(replacesGraphics vm && d.type = .graphics)).filter
        (fun d => !(payload.isSome && d.isPayload)) =
      stored.filter (!isReplaced vm payload ·) := by
    rw [List.filter_filter, List.filter_filter]
    refine List.filter_congr fun d _ => ?_
    rw [isReplaced_eq, Bool.not_or, Bool.not_or, Bool.and_comm, Bool.and_comm (!_) (!_),
      Bool.and_assoc]
  have hvideo : (addedVideo fresh vm).filter
      (fun d => !(replacesGraphics vm && d.type = .graphics)) = addedVideo fresh vm := by
    rw [List.filter_eq_self]
    intro d hd
    obtain ⟨model, -, rfl⟩ := List.mem_map.mp hd
    simp
  rw [beforeFloppy, withVideo_eq, withGraphics_eq, withPayload_eq, List.filter_append,
    List.filter_append, List.filter_append, hstored, hvideo,
    filter_of_isPlain fun _ => isPlain_of_mem_addedVideo,
    filter_of_isPlain fun _ => isPlain_of_mem_addedGraphics, besideFloppy]

/-- A run gets a floppy if it has a path for one and no device but floppies. -/
lemma devices_of_runOnce (payload : Option Device) (stored : List Device) (hrun : vm.runOnce) :
    devices fresh vm payload stored =
      beforeFloppy fresh vm payload stored ++
        if isGiven vm.floppyPath ∧ ∀ d ∈ beforeFloppy fresh vm payload stored,
          d.subtype = Device.floppySubtype then [addedFloppy fresh vm] else [] := by
  have hdevices : devices fresh vm payload stored =
      withFloppy fresh vm (beforeFloppy fresh vm payload stored) := by
    rw [devices, if_pos hrun]
    rfl
  rw [hdevices, withFloppy]
  simp only [Bool.and_eq_true, List.all_eq_true, beq_iff_eq]
  split
  · rfl
  · exact (List.append_nil _).symm

/-- **The list of a run**: outside of a run the devices are those stored. A run has a floppy after
the other devices if there is a path for it and none of them is anything but a floppy. All devices
that are made up are plugged, managed and without parameters, and the floppy is read-only. -/
theorem devices_eq (fresh : FreshIds) (vm : VirtualMachine) (payload : Option Device)
    (stored : List Device) :
    devices fresh vm payload stored =
        (if vm.runOnce then
          besideFloppy fresh vm payload stored ++
            if (∃ path ∈ vm.floppyPath, path ≠ "") ∧
              ∀ d ∈ besideFloppy fresh vm payload stored, d.subtype = "floppy"
            then [addedFloppy fresh vm] else []
        else stored) ∧
      (∀ d ∈ addedVideo fresh vm ++ addedGraphics fresh vm ++ [addedFloppy fresh vm], IsPlain d) ∧
      (addedFloppy fresh vm).readOnly := by
  refine ⟨?_, ?_, rfl⟩
  · split
    next hrun =>
      have hpath : isGiven vm.floppyPath ↔ ∃ path ∈ vm.floppyPath, path ≠ "" := by
        simp [isGiven, Option.any_eq_true]
      rw [devices_of_runOnce payload stored hrun, beforeFloppy_eq]
      exact congrArg _ (if_congr (and_congr_left' hpath) rfl rfl)
    next hrun => exact if_neg hrun
  · simp only [List.forall_mem_append, List.forall_mem_singleton]
    exact ⟨⟨fun _ => isPlain_of_mem_addedVideo, fun _ => isPlain_of_mem_addedGraphics⟩,
      rfl, rfl, rfl⟩

/-- A machine that is run once with a SPICE display, and with a path for a floppy. -/
def runMachine (display : DisplayType) : VirtualMachine :=
  { Fixture.plainMachine none [] [] with
    runOnce := true
    displayType := some display
    graphics := SortedMap.empty.insert .spice ⟨none, none, none⟩
    floppyPath := some "boot.img" }

/-- A stored video device makes way for the one of the display type. Without any display there is
no device but a floppy. -/
theorem devices_runMachine :
    devices (.constant default) (runMachine .qxl) (some (.plain ⟨⟨3⟩, default⟩ .disk "cdrom"))
        [.plain ⟨⟨1⟩, default⟩ .video "cirrus", .plain ⟨⟨2⟩, default⟩ .controller "usb"] =
      [.plain ⟨⟨2⟩, default⟩ .controller "usb",
        madeUp default (runMachine .qxl) .video "qxl",
        madeUp default (runMachine .qxl) .graphics "spice",
        .plain ⟨⟨3⟩, default⟩ .disk "cdrom"] ∧
    devices (.constant default) (runMachine .vga) none [] =
      [madeUp default (runMachine .vga) .video "vga",
        madeUp default (runMachine .vga) .graphics "spice"] ∧
    devices (.constant default) (runMachine .cirrus) none [] =
      [madeUp default (runMachine .cirrus) .video "cirrus",
        madeUp default (runMachine .cirrus) .graphics "spice"] ∧
    devices (.constant default) (runMachine .none) none [] =
      [{ madeUp default (runMachine .none) .disk "floppy" with readOnly := true }] :=
  ⟨(devices_eq _ _ _ _).1.trans rfl, (devices_eq _ _ _ _).1.trans rfl,
    (devices_eq _ _ _ _).1.trans rfl, (devices_eq _ _ _ _).1.trans rfl⟩

/-! ### Devices that may be booted from -/

/-- Whether the device is of a class that may be booted from. -/
def mayBoot (d : Device) : Bool :=
  d.type = .interface || (d.type = .disk && (d.subtype = "disk" || d.subtype = "cdrom"))

/-- The payload of a start, if it is a run-once start. -/
def runPayload? (vm : VirtualMachine) (payload : Option Device) : Option Device :=
  if vm.runOnce then payload else none

/-- Of the devices that may be booted from, a run replaces those with a payload. -/
lemma filter_mayBoot_stored (payload : Option Device) (stored : List Device) :
    (stored.filter (!isReplaced vm payload ·)).filter mayBoot =
      (stored.filter fun d => !(payload.isSome && d.isPayload)).filter mayBoot := by
  rw [List.filter_filter, List.filter_filter]
  refine List.filter_congr fun d _ => ?_
  cases hboot : mayBoot d with
  | false => rfl
  | true =>
    have htype : d.type ≠ .video ∧ d.type ≠ .graphics := by
      constructor <;> intro htype <;> simp [mayBoot, htype] at hboot
    simp [isReplaced_eq, htype]

/-- The devices that may be booted from are stored ones, and the payload in place of stored ones. -/
theorem filter_devices (payload : Option Device) (stored : List Device) :
    (devices fresh vm payload stored).filter mayBoot =
      (withPayload (runPayload? vm payload) stored).filter mayBoot := by
  have hvideo : (addedVideo fresh vm).filter mayBoot = [] := by
    rw [List.filter_eq_nil_iff]
    intro d hd
    obtain ⟨model, -, rfl⟩ := List.mem_map.mp hd
    simp [mayBoot]
  have hgraphics : (addedGraphics fresh vm).filter mayBoot = [] := by
    rw [List.filter_eq_nil_iff]
    intro d hd
    simp [mayBoot, type_of_mem_addedGraphics hd]
  have hfloppy : [addedFloppy fresh vm].filter mayBoot = [] := rfl
  by_cases hrun : vm.runOnce
  · rw [devices_of_runOnce payload stored hrun, beforeFloppy_eq, runPayload?, if_pos hrun,
      withPayload_eq, besideFloppy]
    simp only [List.filter_append, hvideo, hgraphics, filter_mayBoot_stored, List.append_nil]
    split
    · rw [hfloppy, List.append_nil]
    · exact List.append_nil _
  · rw [devices, if_neg hrun, runPayload?, if_neg hrun]
    rfl

lemma filter_devices_sublist (payload : Option Device) (stored : List Device) :
    ((devices fresh vm payload stored).filter mayBoot).Sublist
      (withPayload (runPayload? vm payload) stored) := by
  rw [filter_devices]
  exact List.filter_sublist

/-- Two devices have identities of their own, unless one of them is the payload. -/
def Apart (payload : Option Device) (d e : Device) : Prop :=
  d.id = e.id → payload = some d ∨ payload = some e

instance {payload : Option Device} : Std.Symm (Apart payload) :=
  ⟨fun _ _ h heq => (h heq.symm).symm⟩

/-- Stored devices with distinct identities stay apart from each other and from the payload. -/
theorem pairwise_devices (payload : Option Device) {stored : List Device}
    (hstored : (stored.map (·.id)).Nodup) :
    ((devices fresh vm payload stored).filter mayBoot).Pairwise
      (Apart (runPayload? vm payload)) := by
  refine List.Pairwise.sublist (filter_devices_sublist payload stored) ?_
  have hapart (payload : Option Device) : stored.Pairwise (Apart payload) :=
    (List.pairwise_map.mp hstored).imp fun hne heq => absurd heq hne
  cases runPayload? vm payload with
  | none => exact hapart none
  | some p =>
    refine List.pairwise_append.mpr ⟨(hapart _).filter _, List.pairwise_singleton _ _, ?_⟩
    intro d _ e he _
    exact .inr (by rw [List.mem_singleton.mp he])

/-! ### Reordered devices -/

/-- A start of reordered devices has reordered devices. -/
theorem devices_perm (payload : Option Device) {stored stored' : List Device}
    (h : stored.Perm stored') :
    (devices fresh vm payload stored).Perm (devices fresh vm payload stored') := by
  have hbefore : (beforeFloppy fresh vm payload stored).Perm
      (beforeFloppy fresh vm payload stored') := by
    rw [beforeFloppy_eq, beforeFloppy_eq]
    exact (((h.filter _).append_right _).append_right _).append_right _
  by_cases hrun : vm.runOnce
  · rw [devices_of_runOnce payload stored hrun, devices_of_runOnce payload stored' hrun]
    simp only [hbefore.mem_iff]
    exact hbefore.append_right _
  · rwa [devices, devices, if_neg hrun, if_neg hrun]

/-! ### Displays -/

section

variable {type : DeviceType} {payload : Option Device} {stored : List Device}

/-- The devices of a run of a type that is not that of the payload and of floppies. -/
lemma filter_type_devices (hrun : vm.runOnce) (htype : type ≠ .disk)
    (hpayload : ∀ p ∈ payload, p.type ≠ type) :
    (devices fresh vm payload stored).filter (·.type = type) =
      (stored.filter (!isReplaced vm payload ·)).filter (·.type = type) ++
        (addedVideo fresh vm).filter (·.type = type) ++
        (addedGraphics fresh vm).filter (·.type = type) := by
  have hpayload : payload.toList.filter (·.type = type) = [] :=
    List.filter_eq_nil_iff.mpr (by simpa using hpayload)
  have hfloppy : [addedFloppy fresh vm].filter (·.type = type) = [] :=
    List.filter_eq_nil_iff.mpr (by simpa [addedFloppy, Device.plain] using htype.symm)
  rw [devices_of_runOnce payload stored hrun, beforeFloppy_eq, besideFloppy]
  simp only [List.filter_append, hpayload, List.append_nil]
  split
  · rw [hfloppy, List.append_nil]
  · exact List.append_nil _

/-- **One video device**: a run of a machine with a display type has the video device of that type
and no other, whatever is stored. -/
theorem filter_video_devices (hrun : vm.runOnce) (hpayload : ∀ p ∈ payload, p.type ≠ .video)
    {display : DisplayType} (hdisplay : vm.displayType = some display) :
    (devices fresh vm payload stored).filter (·.type = .video) =
      (videoModelOf display).toList.map (madeUp fresh.video vm .video) := by
  have hstored : (stored.filter (!isReplaced vm payload ·)).filter (·.type = .video) = [] := by
    rw [List.filter_filter, List.filter_eq_nil_iff]
    intro d _
    simp +contextual [isReplaced, replacesVideo, hdisplay]
  have hvideo : (addedVideo fresh vm).filter (·.type = .video) = addedVideo fresh vm := by
    rw [List.filter_eq_self]
    intro d hd
    obtain ⟨model, -, rfl⟩ := List.mem_map.mp hd
    rfl
  have hgraphics : (addedGraphics fresh vm).filter (·.type = .video) = [] := by
    rw [List.filter_eq_nil_iff]
    intro d hd
    simp [type_of_mem_addedGraphics hd]
  rw [filter_type_devices hrun (by decide) hpayload, hstored, hvideo, hgraphics, List.nil_append,
    List.append_nil, addedVideo, hdisplay]
  rfl

/-- **The displays of a run**: a run of a machine without video has no display, and one of a
machine with display protocols has those and no other, whatever is stored. -/
theorem filter_graphics_devices (hrun : vm.runOnce) (hpayload : ∀ p ∈ payload, p.type ≠ .graphics)
    (hset : vm.displayType = some .none ∨ vm.graphics.isEmpty = false) :
    (devices fresh vm payload stored).filter (·.type = .graphics) =
      if vm.displayType = some .none then []
      else vm.graphics.keys.map fun protocol =>
        madeUp (fresh.graphics protocol) vm .graphics (subtypeOf protocol) := by
  have hreplaces : replacesGraphics vm := by
    rcases hset with h | h <;> simp [replacesGraphics, h]
  have hstored : (stored.filter (!isReplaced vm payload ·)).filter (·.type = .graphics) = [] := by
    rw [List.filter_filter, List.filter_eq_nil_iff]
    intro d _
    simp +contextual [isReplaced, hreplaces]
  have hvideo : (addedVideo fresh vm).filter (·.type = .graphics) = [] := by
    rw [List.filter_eq_nil_iff]
    intro d hd
    obtain ⟨model, -, rfl⟩ := List.mem_map.mp hd
    simp
  have hgraphics :
      (addedGraphics fresh vm).filter (·.type = .graphics) = addedGraphics fresh vm := by
    rw [List.filter_eq_self]
    intro d hd
    simp [type_of_mem_addedGraphics hd]
  rw [filter_type_devices hrun (by decide) hpayload, hstored, hvideo, hgraphics]
  rfl

end

/-! ### Unplugged devices -/

/-- The plugged devices of the list. -/
def plugged (ds : List Device) : List Device :=
  ds.filter (·.plugged)

lemma plugged_append (ds ds' : List Device) : plugged (ds ++ ds') = plugged ds ++ plugged ds' :=
  List.filter_append ..

lemma plugged_plugged (ds : List Device) : plugged (plugged ds) = plugged ds := by
  simp [plugged]

lemma plugged_filter (p : Device → Bool) (ds : List Device) :
    plugged (ds.filter p) = (plugged ds).filter p :=
  List.filter_comm ..

/-- Only unplugged devices keep the run from getting a floppy. -/
structure FloppyHeldBack (fresh : FreshIds) (vm : VirtualMachine) (payload : Option Device)
    (stored : List Device) : Prop where
  runOnce : vm.runOnce
  path : isGiven vm.floppyPath
  other : ∃ d ∈ beforeFloppy fresh vm payload stored, d.subtype ≠ Device.floppySubtype
  floppies : ∀ d ∈ beforeFloppy fresh vm payload (plugged stored),
    d.subtype = Device.floppySubtype

variable (fresh vm) in
lemma plugged_beforeFloppy (payload : Option Device) (stored : List Device) :
    plugged (beforeFloppy fresh vm payload (plugged stored)) =
      plugged (beforeFloppy fresh vm payload stored) := by
  simp only [beforeFloppy_eq, besideFloppy, plugged_append, plugged_filter, plugged_plugged]

variable (fresh vm) in
lemma beforeFloppy_sublist (payload : Option Device) {stored stored' : List Device}
    (h : stored'.Sublist stored) :
    (beforeFloppy fresh vm payload stored').Sublist (beforeFloppy fresh vm payload stored) := by
  rw [beforeFloppy_eq, beforeFloppy_eq]
  exact (((h.filter _).append_right _).append_right _).append_right _

lemma plugged_devices_of_runOnce (payload : Option Device) (stored : List Device)
    (hrun : vm.runOnce) :
    plugged (devices fresh vm payload stored) =
      plugged (beforeFloppy fresh vm payload stored) ++
        if isGiven vm.floppyPath ∧ ∀ d ∈ beforeFloppy fresh vm payload stored,
          d.subtype = Device.floppySubtype then [addedFloppy fresh vm] else [] := by
  rw [devices_of_runOnce _ _ hrun, plugged_append]
  split <;> rfl

/-- **Unplugged devices count for floppies only**: without the unplugged devices a start has the
same plugged ones, and a floppy in addition if they alone held it back. -/
theorem plugged_devices_plugged (fresh : FreshIds) (vm : VirtualMachine)
    (payload : Option Device) (stored : List Device) :
    (¬ FloppyHeldBack fresh vm payload stored →
      plugged (devices fresh vm payload (plugged stored)) =
        plugged (devices fresh vm payload stored)) ∧
    (FloppyHeldBack fresh vm payload stored →
      plugged (devices fresh vm payload (plugged stored)) =
        plugged (devices fresh vm payload stored) ++ [addedFloppy fresh vm]) := by
  have hbefore := plugged_beforeFloppy fresh vm payload stored
  have hsubset := (beforeFloppy_sublist fresh vm payload
    (List.filter_sublist : (plugged stored).Sublist stored)).subset
  constructor
  · intro hheld
    by_cases hrun : vm.runOnce
    · rw [plugged_devices_of_runOnce _ _ hrun, plugged_devices_of_runOnce _ _ hrun, hbefore]
      congr 1
      refine if_congr (and_congr_right fun hpath => ⟨fun hall => ?_, fun hall d hd => ?_⟩) rfl rfl
      · by_contra hother
        push Not at hother
        exact hheld ⟨hrun, hpath, hother, hall⟩
      · exact hall d (hsubset hd)
    · simp only [devices, hrun, Bool.false_eq_true, if_false, plugged_plugged]
  · intro hheld
    obtain ⟨d, hd, hother⟩ := hheld.other
    rw [plugged_devices_of_runOnce _ _ hheld.runOnce, plugged_devices_of_runOnce _ _ hheld.runOnce,
      hbefore, if_pos ⟨hheld.path, hheld.floppies⟩, if_neg fun h => hother (h.2 d hd),
      List.append_nil]

end VmDescriptor.RunOnce
