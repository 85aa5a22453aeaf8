import Mathlib.Data.List.Basic
import VmDescriptor.DeviceClasses
import VmDescriptor.Proofs.Peripheral

/-!
The classes of a list of devices.

Each device adds to the end of the classes, so the classes of a list are read off the list
device by device: disks and CD-ROMs are the plugged devices of their type and subtype,
interfaces those of a known kind, peripherals those whose parameters can be read. Peripherals
alone give out indices, and only to controllers.
-/

namespace VmDescriptor.DeviceClasses

/-- The device is a plugged one of the type of disks with a given subtype. -/
def isDiskOf (subtype : String) (d : Device) : Bool :=
  d.plugged && d.type = .disk && d.subtype = subtype

/-- The interface device that a device is, if it is plugged and on a bridge or of the host. -/
def interfaceDevice? (d : Device) : Option InterfaceDevice :=
  if d.plugged && d.type = .interface then
    if d.subtype = "bridge" then some ⟨d, .bridge⟩
    else if d.subtype = "hostdev" then some ⟨d, .hostdev⟩
    else none
  else none

lemma interfaceDevice?_eq (d : Device) : interfaceDevice? d =
    if d.plugged && d.type = .interface then
      (InterfaceKind.all.find? (·.name == d.subtype)).map (⟨d, ·⟩)
    else none := by
  have hkind (subtype : String) : InterfaceKind.all.find? (·.name == subtype) =
      if subtype = "bridge" then some .bridge
      else if subtype = "hostdev" then some .hostdev
      else none := by
    simp only [InterfaceKind.all, List.find?_cons, List.find?_nil, InterfaceKind.name,
      beq_eq_decide, eq_comm (b := subtype)]
    split <;> split <;> simp_all
  rw [interfaceDevice?, hkind]
  split_ifs <;> rfl

/-- What each device adds to a class, a list of devices adds one after the other. -/
lemma foldl_add {α : Type} (get : DeviceClasses → List α) {added : Device → List α}
    (hadd : ∀ cs d, get (cs.add d) = get cs ++ added d) (cs : DeviceClasses)
    (devices : List Device) :
    get (devices.foldl add cs) = get cs ++ devices.flatMap added := by
  induction devices generalizing cs with
  | nil => simp
  | cons d rest ih => simp [ih, hadd]

/-! ### What one device adds -/

section

variable (cs : DeviceClasses) (d : Device)

/-- What is done with a device: it is left out if it is not plugged, and else goes by its type. -/
lemma add_cases :
    (d.plugged = false ∧ cs.add d = cs) ∨
    (d.plugged ∧ d.type = .disk ∧ cs.add d = cs.addDisk d) ∨
    (d.plugged ∧ d.type = .interface ∧ cs.add d = cs.addInterface d) ∨
    (d.plugged ∧ d.type ≠ .disk ∧ d.type ≠ .interface ∧ cs.add d = cs.addPeripheral d) := by
  unfold add
  cases d.plugged with
  | false => exact .inl ⟨rfl, rfl⟩
  | true =>
    refine .inr ?_
    cases d.type with
    | disk => exact .inl ⟨rfl, rfl, rfl⟩
    | interface => exact .inr (.inl ⟨rfl, rfl, rfl⟩)
    | _ => exact .inr (.inr ⟨rfl, by decide, by decide, rfl⟩)

lemma addDisk_classes :
    (cs.addDisk d).disks = cs.disks ++ (if d.subtype = "disk" then [d] else []) ∧
      (cs.addDisk d).cdroms = cs.cdroms ++ (if d.subtype = "cdrom" then [d] else []) ∧
      (cs.addDisk d).interfaces = cs.interfaces := by
  unfold addDisk
  split_ifs with hcdrom hdisk <;> simp_all [withNotice]

lemma addInterface_classes :
    (cs.addInterface d).disks = cs.disks ∧ (cs.addInterface d).cdroms = cs.cdroms ∧
      (cs.addInterface d).interfaces = cs.interfaces ++
        ((InterfaceKind.all.find? (·.name == d.subtype)).map (⟨d, ·⟩)).toList := by
  unfold addInterface
  split <;> simp_all [withNotice]

lemma addPeripheral_classes :
    (cs.addPeripheral d).disks = cs.disks ∧ (cs.addPeripheral d).cdroms = cs.cdroms ∧
      (cs.addPeripheral d).interfaces = cs.interfaces := by
  unfold addPeripheral
  split <;> simp [withNotice]

/-- A device adds itself to its own class. -/
lemma add_classes :
    (cs.add d).disks = cs.disks ++ [d].filter (isDiskOf "disk") ∧
      (cs.add d).cdroms = cs.cdroms ++ [d].filter (isDiskOf "cdrom") ∧
      (cs.add d).interfaces = cs.interfaces ++ (interfaceDevice? d).toList := by
  rcases cs.add_cases d with ⟨hplugged, hadd⟩ | ⟨hplugged, htype, hadd⟩ | ⟨hplugged, htype, hadd⟩ |
    ⟨hplugged, hdisk, hinterface, hadd⟩ <;> rw [hadd]
  · simp [isDiskOf, interfaceDevice?_eq, hplugged]
  · obtain ⟨hdisks, hcdroms, hinterfaces⟩ := cs.addDisk_classes d
    rw [hdisks, hcdroms, hinterfaces]
    simp [isDiskOf, interfaceDevice?_eq, hplugged, htype, List.filter_cons]
  · obtain ⟨hdisks, hcdroms, hinterfaces⟩ := cs.addInterface_classes d
    rw [hdisks, hcdroms, hinterfaces]
    simp [isDiskOf, interfaceDevice?_eq, hplugged, htype]
  · obtain ⟨hdisks, hcdroms, hinterfaces⟩ := cs.addPeripheral_classes d
    rw [hdisks, hcdroms, hinterfaces]
    simp [isDiskOf, interfaceDevice?_eq, hplugged, hdisk, hinterface]

end

/-! ### The classes of a list -/

variable (ix : DiskIndices) (devices : List Device)

lemma flatMap_filter_self (p : Device → Bool) :
    (devices.flatMap fun d => [d].filter p) = devices.filter p := by
  rw [← List.filter_flatMap, List.flatMap_singleton']

theorem disks_ofDevices : (ofDevices ix devices).disks = devices.filter (isDiskOf "disk") := by
  have h := foldl_add disks (fun cs d => (cs.add_classes d).1) (initial ix) devices
  rwa [flatMap_filter_self] at h

theorem cdroms_ofDevices :
    (ofDevices ix devices).cdroms = devices.filter (isDiskOf "cdrom") := by
  have h := foldl_add cdroms (fun cs d => (cs.add_classes d).2.1) (initial ix) devices
  rwa [flatMap_filter_self] at h

theorem interfaces_ofDevices :
    (ofDevices ix devices).interfaces = devices.filterMap interfaceDevice? := by
  have h := foldl_add interfaces (fun cs d => (cs.add_classes d).2.2) (initial ix) devices
  rw [List.filterMap_eq_flatMap_toList]
  exact h

lemma of_isDiskOf {subtype : String} {d : Device} (h : isDiskOf subtype d) :
    d.type = .disk ∧ d.subtype = subtype := by
  simp only [isDiskOf, Bool.and_eq_true, decide_eq_true_iff] at h
  exact ⟨h.1.2, h.2⟩

lemma plugged_of_isDiskOf {subtype : String} {d : Device} (h : isDiskOf subtype d) :
    d.plugged := by
  simp only [isDiskOf, Bool.and_eq_true] at h
  exact h.1.1

variable {ix devices} in
lemma mem_disks_ofDevices {d : Device} (h : d ∈ (ofDevices ix devices).disks) :
    d ∈ devices ∧ d.type = .disk ∧ d.subtype = "disk" := by
  rw [disks_ofDevices, List.mem_filter] at h
  exact ⟨h.1, of_isDiskOf h.2⟩

variable {ix devices} in
lemma mem_cdroms_ofDevices {d : Device} (h : d ∈ (ofDevices ix devices).cdroms) :
    d ∈ devices ∧ d.type = .disk ∧ d.subtype = "cdrom" := by
  rw [cdroms_ofDevices, List.mem_filter] at h
  exact ⟨h.1, of_isDiskOf h.2⟩

lemma device_of_interfaceDevice? {d : Device} {i : InterfaceDevice}
    (h : interfaceDevice? d = some i) : i.device = d := by
  rw [interfaceDevice?_eq] at h
  split at h
  · obtain ⟨_, -, rfl⟩ := Option.map_eq_some_iff.mp h
    rfl
  · cases h

lemma plugged_of_interfaceDevice? {d : Device} {i : InterfaceDevice}
    (h : interfaceDevice? d = some i) : d.plugged := by
  rw [interfaceDevice?_eq] at h
  split at h
  next hd => exact (Bool.and_eq_true_iff.mp hd).1
  · cases h

lemma type_of_interfaceDevice? {d : Device} (h : (interfaceDevice? d).isSome) :
    d.type = .interface := by
  rw [interfaceDevice?_eq] at h
  split at h
  next hd => exact of_decide_eq_true (Bool.and_eq_true_iff.mp hd).2
  · cases h

lemma map_device_interfaces :
    (ofDevices ix devices).interfaces.map (·.device) =
      devices.filter fun d => (interfaceDevice? d).isSome := by
  rw [interfaces_ofDevices, List.map_filterMap]
  induction devices with
  | nil => rfl
  | cons d rest ih =>
    rw [List.filterMap_cons, List.filter_cons, ih]
    cases h : interfaceDevice? d with
    | none => rfl
    | some i => simp [device_of_interfaceDevice? h]

/-- Devices that add nothing leave no trace. -/
lemma ofDevices_filter {p : Device → Bool} (h : ∀ cs d, p d = false → add cs d = cs) :
    ofDevices ix (devices.filter p) = ofDevices ix devices := by
  have hfoldl (cs : DeviceClasses) : (devices.filter p).foldl add cs = devices.foldl add cs := by
    induction devices generalizing cs with
    | nil => rfl
    | cons d rest ih =>
      cases hp : p d with
      | true => rw [List.filter_cons_of_pos hp, List.foldl_cons, List.foldl_cons, ih]
      | false => rw [List.filter_cons_of_neg (by simp [hp]), List.foldl_cons, h cs d hp, ih]
  exact hfoldl (initial ix)

/-- Devices that are not plugged are in no class. -/
theorem ofDevices_filter_plugged : ofDevices ix (devices.filter (·.plugged)) =
    ofDevices ix devices :=
  ofDevices_filter ix devices fun cs d hplugged => by simp [add, hplugged]

/-- The peripherals and the floppy are plugged devices among some devices. -/
structure MadeOf (cs : DeviceClasses) (devices : List Device) : Prop where
  peripherals : ∀ p ∈ cs.peripherals, ∃ d ∈ devices, d.plugged ∧ d.address = p.address
  floppy : ∀ d ∈ cs.floppy, d ∈ devices ∧ d.plugged

variable {devices} in
lemma MadeOf.add {cs : DeviceClasses} (h : cs.MadeOf devices) {d : Device} (hd : d ∈ devices) :
    (cs.add d).MadeOf devices := by
  obtain ⟨hperipherals, hfloppy⟩ := h
  rcases cs.add_cases d with ⟨-, hadd⟩ | ⟨hplugged, -, hadd⟩ | ⟨-, -, hadd⟩ |
    ⟨hplugged, -, -, hadd⟩ <;> rw [hadd]
  · exact ⟨hperipherals, hfloppy⟩
  · unfold addDisk
    split_ifs
    · exact ⟨hperipherals, hfloppy⟩
    · exact ⟨hperipherals, hfloppy⟩
    · refine ⟨hperipherals, fun d' hd' => ?_⟩
      unfold chooseFloppy at hd'
      split_ifs at hd'
      · exact hfloppy d' hd'
      · obtain rfl : d = d' := Option.some.inj hd'
        exact ⟨hd, hplugged⟩
    · exact ⟨hperipherals, hfloppy⟩
  · unfold addInterface
    split <;> exact ⟨hperipherals, hfloppy⟩
  · unfold addPeripheral
    split
    · refine ⟨List.forall_mem_append.mpr ⟨hperipherals, ?_⟩, hfloppy⟩
      rw [List.forall_mem_singleton]
      exact ⟨d, hd, hplugged, rfl⟩
    · exact ⟨hperipherals, hfloppy⟩
    · exact ⟨hperipherals, hfloppy⟩

theorem madeOf_ofDevices : (ofDevices ix devices).MadeOf devices := by
  have hfoldl (ds : List Device) (hds : ∀ d ∈ ds, d ∈ devices) (cs : DeviceClasses)
      (h : cs.MadeOf devices) : (ds.foldl add cs).MadeOf devices := by
    induction ds generalizing cs with
    | nil => exact h
    | cons d rest ih =>
      obtain ⟨hd, hrest⟩ := List.forall_mem_cons.mp hds
      exact ih hrest (cs.add d) (h.add hd)
  exact hfoldl devices (fun _ => id) (initial ix) ⟨nofun, nofun⟩

/-! ### Peripherals -/

/-- The peripheral that a device is read as, if it is plugged. -/
def peripheral? (ix : DiskIndices) (d : Device) : Option Peripheral :=
  if d.plugged then
    match Peripheral.kind? d ix with
    | .ok (some (kind, _)) => some ⟨kind, d.address⟩
    | _ => none
  else none

/-- The device is plugged and can be used as a peripheral. -/
def isPeripheral (d : Device) : Bool :=
  d.plugged && Peripheral.Usable d

lemma isPeripheral_iff {d : Device} : isPeripheral d ↔ d.plugged ∧ Peripheral.Usable d := by
  simp [isPeripheral]

section

variable (cs : DeviceClasses) {d : Device}

/-- A peripheral is added as it is read. -/
lemma add_of_isPeripheral (h : isPeripheral d) :
    ∃ kind ix, Peripheral.kind? d cs.indices = .ok (some (kind, ix)) ∧
      cs.add d =
        { cs with peripherals := cs.peripherals ++ [⟨kind, d.address⟩], indices := ix } := by
  obtain ⟨hplugged, husable⟩ := isPeripheral_iff.mp h
  obtain ⟨⟨kind, ix⟩, hkind⟩ : ∃ k, Peripheral.kind? d cs.indices = .ok (some k) :=
    Peripheral.exists_kind?_iff.mpr husable
  refine ⟨kind, ix, hkind, ?_⟩
  have htype := husable.type
  rcases cs.add_cases d with ⟨hunplugged, -⟩ | ⟨-, hdisk, -⟩ | ⟨-, hinterface, -⟩ | ⟨-, -, -, hadd⟩
  · cases hplugged.symm.trans hunplugged
  · rw [hdisk] at htype
    cases htype
  · rw [hinterface] at htype
    cases htype
  · rw [hadd, addPeripheral, hkind]

/-- Any other device adds no peripheral and takes no index. -/
lemma add_of_not_isPeripheral (h : ¬ isPeripheral d) :
    (cs.add d).peripherals = cs.peripherals ∧ (cs.add d).indices = cs.indices := by
  rcases cs.add_cases d with ⟨-, hadd⟩ | ⟨-, -, hadd⟩ | ⟨-, -, hadd⟩ | ⟨hplugged, -, -, hadd⟩ <;>
    rw [hadd]
  · exact ⟨rfl, rfl⟩
  · unfold addDisk
    split_ifs <;> exact ⟨rfl, rfl⟩
  · unfold addInterface
    split <;> exact ⟨rfl, rfl⟩
  · unfold addPeripheral
    split
    next k ix hkind =>
      exact absurd (isPeripheral_iff.mpr ⟨hplugged, Peripheral.exists_kind?_iff.mp ⟨_, hkind⟩⟩) h
    next => exact ⟨rfl, rfl⟩
    next => exact ⟨rfl, rfl⟩

/-- A device adds itself as a peripheral if it is read as one. -/
lemma peripherals_add (d : Device) :
    (cs.add d).peripherals = cs.peripherals ++ (peripheral? cs.indices d).toList := by
  unfold peripheral?
  by_cases h : isPeripheral d
  · obtain ⟨kind, ix, hkind, hadd⟩ := cs.add_of_isPeripheral h
    rw [hadd, if_pos (isPeripheral_iff.mp h).1, hkind]
    rfl
  · rw [(cs.add_of_not_isPeripheral h).1]
    split
    next hplugged =>
      split
      next k ix hkind =>
        exact absurd (isPeripheral_iff.mpr ⟨hplugged, Peripheral.exists_kind?_iff.mp ⟨_, hkind⟩⟩) h
      next => exact (List.append_nil _).symm
    next => exact (List.append_nil _).symm

end

/-- What peripherals have is had by the devices that they are read from, in the order of the list,
unless it depends on indices. -/
theorem filterMap_peripherals_ofDevices {α : Type} {get : Peripheral → Option α}
    {ofDevice : Device → Option α} (h : ∀ ix d, (peripheral? ix d).bind get = ofDevice d) :
    (ofDevices ix devices).peripherals.filterMap get = devices.filterMap ofDevice := by
  have hadd (cs : DeviceClasses) (d : Device) : (cs.add d).peripherals.filterMap get =
      cs.peripherals.filterMap get ++ (ofDevice d).toList := by
    rw [peripherals_add, List.filterMap_append, ← h cs.indices d]
    congr 1
    cases peripheral? cs.indices d with
    | none => rfl
    | some p => cases hget : get p <;> simp [hget]
  refine (foldl_add (fun cs => cs.peripherals.filterMap get) hadd (initial ix) devices).trans ?_
  exact (List.filterMap_eq_flatMap_toList _ _).symm

/-- Whether a device is read as a peripheral. -/
def isRead (d : Device) (ix : DiskIndices) : Bool :=
  match Peripheral.kind? d ix with
  | .ok (some _) => true
  | _ => false

/-- The type of a device that is described as a peripheral: a plugged one that is read. -/
def peripheralType? (ix : DiskIndices) (d : Device) : Option DeviceType :=
  if d.plugged && isRead d ix then some d.type else none

/-- The type of the devices that a peripheral is read from. -/
def typeOf (p : Peripheral) : DeviceType :=
  match p.kind with
  | .balloon _ => .balloon
  | .smartcard .. => .smartcard
  | .watchdog .. => .watchdog
  | .video _ => .video
  | .controller _ => .controller
  | .graphics _ => .graphics
  | .sound _ => .sound
  | .rng _ => .rng
  | .console _ => .console
  | .redirection => .redir
  | .hostDevice .. => .hostdev

lemma typeOf_of_kind? {d : Device} {ix ix' : DiskIndices} {kind : PeripheralKind}
    (h : Peripheral.kind? d ix = .ok (some (kind, ix'))) (a : Address) :
    typeOf ⟨kind, a⟩ = d.type := by
  unfold Peripheral.kind? at h
  cases htype : d.type with
  | controller =>
    simp only [htype, bind, Except.bind, pure, Except.pure] at h
    split at h
    · cases h
    · cases h
      rfl
  | _ =>
    simp only [htype, bind, Except.bind, pure, Except.pure] at h
    repeat' split at h
    all_goals cases h
    all_goals rfl

lemma isRead_iff {d : Device} {ix : DiskIndices} : isRead d ix ↔ Peripheral.Usable d := by
  have husable : Peripheral.Usable d ↔ ∃ k, Peripheral.kind? d ix = .ok (some k) :=
    Peripheral.exists_kind?_iff.symm
  rw [husable, isRead]
  rcases Peripheral.kind? d ix with e | (_ | k) <;> simp

/-- Whether a device is read does not depend on the indices. -/
lemma isRead_congr (d : Device) (ix ix' : DiskIndices) : isRead d ix = isRead d ix' := by
  rw [Bool.eq_iff_iff, isRead_iff, isRead_iff]

/-- The peripherals are those of the devices that are read, in the order of the list. -/
theorem typeOf_ofDevices :
    (ofDevices ix devices).peripherals.map typeOf = devices.filterMap (peripheralType? ix) := by
  rw [← List.filterMap_eq_map]
  refine filterMap_peripherals_ofDevices ix devices fun ix' d => ?_
  unfold peripheral? peripheralType?
  rw [isRead_congr d ix ix', isRead]
  cases d.plugged with
  | false => rfl
  | true =>
    rcases hkind : Peripheral.kind? d ix' with e | (_ | ⟨kind, ix''⟩)
    · rfl
    · rfl
    · exact congrArg some (typeOf_of_kind? hkind d.address)

lemma typeOf_of_peripheral? {ix : DiskIndices} {d : Device} {p : Peripheral}
    (h : peripheral? ix d = some p) : d.plugged ∧ typeOf p = d.type := by
  unfold peripheral? at h
  split at h
  next hplugged =>
    split at h
    next kind ix' hkind =>
      cases h
      exact ⟨hplugged, typeOf_of_kind? hkind d.address⟩
    next => cases h
  next => cases h

/-- What peripherals of one type have is had by the plugged devices of the type. -/
theorem filterMap_peripherals_of_type {α : Type} {get : Peripheral → Option α}
    {read : Device → Option α} (type : DeviceType) (hget : ∀ p, typeOf p ≠ type → get p = none)
    (hread : ∀ ix d, d.plugged → d.type = type → (peripheral? ix d).bind get = read d) :
    (ofDevices ix devices).peripherals.filterMap get =
      devices.filterMap fun d => if d.plugged ∧ d.type = type then read d else none := by
  refine filterMap_peripherals_ofDevices ix devices fun ix' d => ?_
  split
  next h => exact hread ix' d h.1 h.2
  next h =>
    cases hp : peripheral? ix' d with
    | none => rfl
    | some p =>
      obtain ⟨hplugged, htype⟩ := typeOf_of_peripheral? hp
      exact hget p fun heq => h ⟨hplugged, htype.symm.trans heq⟩

/-! ### Peripherals of one kind -/

/-- What peripherals of one kind have is what the parameters of the plugged devices of its type
are read as. -/
theorem filterMap_peripherals_read {α β : Type} (get : Peripheral → Option α) (type : DeviceType)
    (kind : β → PeripheralKind) (read : Device → Except ParameterError β) (value : β → Address → α)
    (hother : ∀ p, typeOf p ≠ type → get p = none)
    (hkind : ∀ ix d, d.type = type →
      Peripheral.kind? d ix = (read d).map fun b => some (kind b, ix))
    (hget : ∀ b a, get ⟨kind b, a⟩ = some (value b a)) :
    (ofDevices ix devices).peripherals.filterMap get = devices.filterMap fun d =>
      if d.plugged ∧ d.type = type then (read d).toOption.map (value · d.address) else none := by
  refine filterMap_peripherals_of_type ix devices type hother fun ix' d hplugged htype => ?_
  rw [peripheral?, if_pos hplugged, hkind ix' d htype]
  cases read d with
  | error e => rfl
  | ok b => exact hget b d.address

/-- What a device is read as: it is plugged, of the type, and its parameters can be read. -/
lemma read?_eq_some_iff {α : Type} {d : Device} {type : DeviceType}
    {read : Except ParameterError α} {a : α} :
    (if d.plugged ∧ d.type = type then read.toOption else none) = some a ↔
      d.plugged ∧ d.type = type ∧ read = .ok a := by
  rw [Option.ite_none_right_eq_some, and_assoc]
  cases read <;> simp [Except.toOption]

/-- The console that a peripheral is. -/
def consoleOf? (p : Peripheral) : Option Console :=
  match p.kind with
  | .console c => some c
  | _ => none

/-- The display that a peripheral is. -/
def displayOf? (p : Peripheral) : Option Display :=
  match p.kind with
  | .graphics d => some d
  | _ => none

/-- The video adapter and its address that a peripheral is. -/
def videoOf? (p : Peripheral) : Option (Video × Address) :=
  match p.kind with
  | .video v => some (v, p.address)
  | _ => none

/-- The model and the address of the memory balloon that a peripheral is. -/
def balloonOf? (p : Peripheral) : Option (String × Address) :=
  match p.kind with
  | .balloon model => some (model, p.address)
  | _ => none

/-- The console that a device describes: it is plugged and its parameters can be read. -/
def console? (d : Device) : Option Console :=
  if d.plugged ∧ d.type = .console then (Peripheral.console d).toOption else none

/-- The remote display that a device describes: it is plugged, its protocol is known and its
parameters can be read. -/
def display? (d : Device) : Option Display :=
  if d.plugged ∧ d.type = .graphics then (Peripheral.display d).toOption else none

/-- The video adapter and its address that a device describes: it is plugged and its parameters
can be read. -/
def video? (d : Device) : Option (Video × Address) :=
  if d.plugged ∧ d.type = .video then
    (Peripheral.video d).toOption.map fun v => (v, d.address)
  else none

/-- The model and the address of the memory balloon that a device describes: it is plugged and
has a model. -/
def balloon? (d : Device) : Option (String × Address) :=
  if d.plugged ∧ d.type = .balloon then
    (d.parameters.string "model").toOption.map fun model => (model, d.address)
  else none

/-- The consoles among the peripherals are those of the devices that describe one. -/
theorem consoles_ofDevices :
    (ofDevices ix devices).peripherals.filterMap consoleOf? = devices.filterMap console? := by
  have hread := filterMap_peripherals_read ix devices consoleOf? .console .console
    Peripheral.console (fun c _ => c) ?other ?kind fun _ _ => rfl
  case other =>
    rintro ⟨kind, a⟩ htype
    cases kind with
    | console c => exact absurd rfl htype
    | _ => rfl
  case kind =>
    intro ix' d htype
    unfold Peripheral.kind?
    rw [htype]
    rfl
  simp only [Option.map_id'] at hread
  exact hread

/-- The remote displays among the peripherals are those of the devices that describe one. -/
theorem displays_ofDevices :
    (ofDevices ix devices).peripherals.filterMap displayOf? = devices.filterMap display? := by
  have hread := filterMap_peripherals_read ix devices displayOf? .graphics .graphics
    Peripheral.display (fun d _ => d) ?other ?kind fun _ _ => rfl
  case other =>
    rintro ⟨kind, a⟩ htype
    cases kind with
    | graphics d => exact absurd rfl htype
    | _ => rfl
  case kind =>
    intro ix' d htype
    unfold Peripheral.kind?
    rw [htype]
    rfl
  simp only [Option.map_id'] at hread
  exact hread

/-- The video adapters among the peripherals are those of the devices that describe one. -/
theorem videos_ofDevices :
    (ofDevices ix devices).peripherals.filterMap videoOf? = devices.filterMap video? := by
  refine filterMap_peripherals_read ix devices videoOf? .video .video Peripheral.video
    (fun v a => (v, a)) ?other ?kind fun _ _ => rfl
  case other =>
    rintro ⟨kind, a⟩ htype
    cases kind with
    | video v => exact absurd rfl htype
    | _ => rfl
  case kind =>
    intro ix' d htype
    unfold Peripheral.kind?
    rw [htype]
    rfl

/-- The memory balloons among the peripherals are those of the devices that describe one. -/
theorem balloons_ofDevices :
    (ofDevices ix devices).peripherals.filterMap balloonOf? = devices.filterMap balloon? := by
  refine filterMap_peripherals_read ix devices balloonOf? .balloon .balloon
    (fun d => d.parameters.string "model") (fun model a => (model, a)) ?other ?kind fun _ _ => rfl
  case other =>
    rintro ⟨kind, a⟩ htype
    cases kind with
    | balloon model => exact absurd rfl htype
    | _ => rfl
  case kind =>
    intro ix' d htype
    unfold Peripheral.kind?
    rw [htype]
    rfl

/-- The serial console is the last serial one. -/
lemma serialConsole?_eq (cs : DeviceClasses) :
    cs.serialConsole? = ((cs.peripherals.filterMap consoleOf?).filter (·.isSerial)).getLast? := by
  rw [serialConsole?, List.filter_filterMap, List.getLast?_filterMap]
  refine congrArg cs.peripherals.reverse.findSome? (funext fun p => ?_)
  unfold consoleOf?
  cases p.kind with
  | console c => cases hserial : c.isSerial <;> simp [Option.filter, hserial]
  | _ => rfl

lemma hasBalloon_eq_false_iff {cs : DeviceClasses} :
    cs.hasBalloon = false ↔ cs.peripherals.filterMap balloonOf? = [] := by
  rw [hasBalloon, List.any_eq_false, List.filterMap_eq_nil_iff]
  refine forall₂_congr fun p _ => ?_
  unfold balloonOf?
  cases p.kind <;> simp

lemma hasSpice_eq (cs : DeviceClasses) :
    cs.hasSpice = (cs.peripherals.filterMap displayOf?).any (·.type = .spice) := by
  rw [hasSpice, List.any_filterMap]
  refine congrArg cs.peripherals.any (funext fun p => ?_)
  unfold displayOf?
  cases p.kind <;> rfl

/-- The loop that notes what it meets finds out what is among the peripherals in the end. -/
lemma addSeen_eq (cs : DeviceClasses) (d : Device) :
    addSeen (cs, ⟨cs.hasBalloon, cs.hasSpice⟩) d =
      (cs.add d, ⟨(cs.add d).hasBalloon, (cs.add d).hasSpice⟩) := by
  simp only [addSeen, hasBalloon, hasSpice, peripherals_add, List.any_append]
  unfold peripheral?
  cases d.plugged with
  | false => rcases Peripheral.kind? d cs.indices with e | (_ | ⟨kind, ix⟩) <;> simp
  | true =>
    rcases Peripheral.kind? d cs.indices with e | (_ | ⟨kind, ix⟩)
    · simp
    · simp
    · cases kind <;> simp [Seen.note]

/-- **The accumulated flags are those of the result**: a balloon has been met if one is among the
peripherals, and a SPICE display likewise. -/
theorem classify_eq :
    classify ix devices =
      (ofDevices ix devices, ⟨(ofDevices ix devices).hasBalloon,
        (ofDevices ix devices).hasSpice⟩) := by
  have hfoldl (cs : DeviceClasses) : devices.foldl addSeen (cs, ⟨cs.hasBalloon, cs.hasSpice⟩) =
      (devices.foldl add cs, ⟨(devices.foldl add cs).hasBalloon,
        (devices.foldl add cs).hasSpice⟩) := by
    induction devices generalizing cs with
    | nil => rfl
    | cons d rest ih => rw [List.foldl_cons, List.foldl_cons, addSeen_eq, ih]
  exact hfoldl (initial ix)

/-! ### Displays and host devices -/

/-- Whether a peripheral is a remote display. -/
def isDisplay (p : Peripheral) : Bool :=
  match p.kind with
  | .graphics _ => true
  | _ => false

lemma isDisplay_iff {p : Peripheral} : isDisplay p ↔ typeOf p = .graphics := by
  unfold isDisplay typeOf
  cases p.kind <;> simp

/-- The device is a plugged one that describes a remote display: its protocol is known and its
address can be read. -/
structure DescribesDisplay (d : Device) : Prop where
  plugged : d.plugged
  type : d.type = .graphics
  protocol : ∃ type, GraphicsType.parse d.subtype = .ok type
  address : ∃ ip, d.parameters.string? "displayIp" = .ok ip

/-- The device is a plugged one that describes a device of the host: whether it only holds a
group together can be read. -/
structure DescribesHostDevice (d : Device) : Prop where
  plugged : d.plugged
  type : d.type = .hostdev
  placeholder : ∃ b, d.parameters.boolean? "iommuPlaceholder" = .ok b

lemma peripheralType?_eq_some_iff {d : Device} {type : DeviceType} :
    peripheralType? ix d = some type ↔ d.plugged ∧ d.type = type ∧ isRead d ix := by
  unfold peripheralType?
  rw [Option.ite_none_right_eq_some, Bool.and_eq_true, Option.some.injEq, and_assoc,
    and_comm (b := d.type = type)]

lemma peripheralType?_eq_graphics_iff {d : Device} :
    peripheralType? ix d = some .graphics ↔ DescribesDisplay d := by
  have hread (htype : d.type = .graphics) : isRead d ix ↔
      (∃ type, GraphicsType.parse d.subtype = .ok type) ∧
        ∃ ip, d.parameters.string? "displayIp" = .ok ip := by
    unfold isRead Peripheral.kind? Peripheral.display
    rw [htype]
    cases GraphicsType.parse d.subtype with
    | error e => simp [throw, throwThe, MonadExceptOf.throw, bind, Except.bind]
    | ok type =>
      cases d.parameters.string? "displayIp" <;> simp [bind, Except.bind, pure, Except.pure]
  rw [peripheralType?_eq_some_iff]
  constructor
  · rintro ⟨hplugged, htype, h⟩
    obtain ⟨hprotocol, haddress⟩ := (hread htype).mp h
    exact ⟨hplugged, htype, hprotocol, haddress⟩
  · rintro ⟨hplugged, htype, hprotocol, haddress⟩
    exact ⟨hplugged, htype, (hread htype).mpr ⟨hprotocol, haddress⟩⟩

lemma peripheralType?_eq_hostdev_iff {d : Device} :
    peripheralType? ix d = some .hostdev ↔ DescribesHostDevice d := by
  have hread (htype : d.type = .hostdev) : isRead d ix ↔
      ∃ b, d.parameters.boolean? "iommuPlaceholder" = .ok b := by
    unfold isRead Peripheral.kind?
    dsimp only
    rw [htype]
    cases d.parameters.boolean? "iommuPlaceholder" <;>
      simp [bind, Except.bind, pure, Except.pure]
  rw [peripheralType?_eq_some_iff]
  constructor
  · rintro ⟨hplugged, htype, h⟩
    exact ⟨hplugged, htype, (hread htype).mp h⟩
  · rintro ⟨hplugged, htype, hplaceholder⟩
    exact ⟨hplugged, htype, (hread htype).mpr hplaceholder⟩

/-- A display is described just when a device of the list describes one. -/
theorem exists_display_ofDevices :
    (∃ p ∈ (ofDevices ix devices).peripherals, isDisplay p) ↔
      ∃ d ∈ devices, DescribesDisplay d := by
  have hmem : (∃ p ∈ (ofDevices ix devices).peripherals, isDisplay p) ↔
      .graphics ∈ (ofDevices ix devices).peripherals.map typeOf := by
    simp only [List.mem_map, isDisplay_iff]
  rw [hmem, typeOf_ofDevices, List.mem_filterMap]
  simp only [peripheralType?_eq_graphics_iff]

/-! ### Indices -/

/-- Controllers alone have taken indices since. -/
def OnlyControllers (before ix : DiskIndices) : Prop :=
  ix = { before with nextController := ix.nextController }

lemma indices_complete (c : Controller) (ix : DiskIndices) :
    (c.complete ix).2 = ix ∨ (c.complete ix).2 = ix.takeController.2 := by
  unfold Controller.complete
  split_ifs
  · exact .inl rfl
  · exact .inr rfl
  · exact .inl rfl

/-- Reading a device takes an index only for a controller. -/
lemma indices_kind? {d : Device} {ix ix' : DiskIndices} {kind : PeripheralKind}
    (h : Peripheral.kind? d ix = .ok (some (kind, ix'))) :
    ix' = ix ∨ ix' = ix.takeController.2 := by
  by_cases htype : d.type = .controller
  · rw [Peripheral.kind?_of_controller htype] at h
    obtain ⟨c, -, hc⟩ := map_eq_ok_iff.mp h
    cases hc
    exact indices_complete c ix
  · exact .inl (Peripheral.indices_of_kind?_of_ne htype h)

/-- A device takes the index of one controller at most. -/
lemma indices_add (cs : DeviceClasses) (d : Device) :
    (cs.add d).indices = cs.indices ∨ (cs.add d).indices = cs.indices.takeController.2 := by
  by_cases h : isPeripheral d
  · obtain ⟨kind, ix, hkind, hadd⟩ := cs.add_of_isPeripheral h
    rw [hadd]
    exact indices_kind? hkind
  · exact .inl (cs.add_of_not_isPeripheral h).2

theorem onlyControllers_ofDevices (ix : DiskIndices) (devices : List Device) :
    OnlyControllers ix (ofDevices ix devices).indices := by
  have hfoldl (cs : DeviceClasses) (h : OnlyControllers ix cs.indices) :
      OnlyControllers ix (devices.foldl add cs).indices := by
    induction devices generalizing cs with
    | nil => exact h
    | cons d rest ih =>
      refine ih (cs.add d) ?_
      unfold OnlyControllers at h ⊢
      rcases cs.indices_add d with hd | hd
      · rw [hd, h]
      · rw [hd, h]
        rfl
  exact hfoldl (initial ix) rfl

end VmDescriptor.DeviceClasses
