import Mathlib.Data.List.Nodup
import VmDescriptor.Proofs.DeviceClasses

/-!
The controllers among the peripherals.

They are the stored ones in their order, completed one after the other. What is completed is told
apart by type and index: all virtio-serial controllers get one index, virtio-scsi controllers turn
into SCSI controllers with the indices from a base on, and all others keep what is stored.
-/

namespace VmDescriptor

namespace Controller

/-- The type of virtio-scsi controllers once they are completed. -/
def scsi : String := "scsi"

/-- Whether the controller is described as it is stored. -/
def isKept (c : Controller) : Bool :=
  c.type ≠ virtioSerial ∧ c.type ≠ virtioScsi

/-- The type of a controller with its index, if it has one. -/
def typedIndex? (c : Controller) : Option (String × Nat) :=
  c.index.map (c.type, ·)

/-- What becomes of a controller that is completed. -/
lemma complete_cases (c : Controller) (ix : DiskIndices) :
    (c.type = virtioSerial ∧ c.complete ix = (⟨virtioSerial, c.model, some 0, some 16⟩, ix)) ∨
    (c.type = virtioScsi ∧ c.complete ix =
      (⟨scsi, some virtioScsi, some ix.nextController, c.ports⟩, ix.takeController.2)) ∨
    (c.isKept ∧ c.complete ix = (c, ix)) := by
  unfold complete
  split_ifs with hserial hscsi
  · exact .inl ⟨hserial, by rw [← hserial]⟩
  · exact .inr (.inl ⟨hscsi, rfl⟩)
  · exact .inr (.inr ⟨decide_eq_true ⟨hserial, hscsi⟩, rfl⟩)

/-- Controllers completed one after the other. -/
def completed : DiskIndices → List Controller → List Controller
  | _, [] => []
  | ix, c :: rest => (c.complete ix).1 :: completed (c.complete ix).2 rest

/-- The number of controllers of a stored type. -/
def countOf (type : String) (stored : List Controller) : Nat :=
  stored.countP (·.type = type)

lemma countOf_cons (type : String) (c : Controller) (rest : List Controller) :
    countOf type (c :: rest) = countOf type rest + if c.type = type then 1 else 0 := by
  simp [countOf, List.countP_cons]

/-- The types and indices of completed controllers, by what becomes of the controllers. -/
lemma perm_typedIndices (ix : DiskIndices) (stored : List Controller) :
    ((completed ix stored).filterMap typedIndex?).Perm
      ((stored.filter isKept).filterMap typedIndex? ++
        List.replicate (countOf virtioSerial stored) (virtioSerial, 0) ++
        (List.range' ix.nextController (countOf virtioScsi stored)).map (scsi, ·)) := by
  induction stored generalizing ix with
  | nil => exact .refl _
  | cons c rest ih =>
    have hne : virtioSerial ≠ virtioScsi := by decide
    rw [completed, countOf_cons, countOf_cons]
    rcases c.complete_cases ix with ⟨htype, hc⟩ | ⟨htype, hc⟩ | ⟨hkept, hc⟩
    · have hnot : ¬ c.isKept := by simp [isKept, htype]
      rw [hc, List.filter_cons_of_neg hnot, if_pos htype, if_neg (htype ▸ hne),
        List.replicate_succ, List.append_assoc, List.cons_append]
      change ((virtioSerial, 0) :: (completed ix rest).filterMap typedIndex?).Perm _
      refine ((ih ix).cons _).trans ?_
      rw [List.append_assoc]
      exact List.perm_middle.symm
    · have hnot : ¬ c.isKept := by simp [isKept, htype]
      rw [hc, List.filter_cons_of_neg hnot, if_neg (htype ▸ hne.symm), if_pos htype,
        List.range'_succ, List.map_cons]
      change ((scsi, ix.nextController) ::
        (completed ix.takeController.2 rest).filterMap typedIndex?).Perm _
      exact ((ih ix.takeController.2).cons _).trans List.perm_middle.symm
    · obtain ⟨hserial, hscsi⟩ := of_decide_eq_true hkept
      rw [hc, List.filter_cons_of_pos hkept, if_neg hserial, if_neg hscsi]
      cases hindex : c.typedIndex? with
      | none =>
        rw [List.filterMap_cons_none hindex, List.filterMap_cons_none hindex]
        exact ih ix
      | some t =>
        rw [List.filterMap_cons_some hindex, List.filterMap_cons_some hindex]
        exact (ih ix).cons t

/-- Controllers differ by type and index once they are completed: those described as stored do,
one at most is a virtio-serial one, and no stored SCSI controller has an index that is given to a
virtio-scsi controller. -/
structure StayApart (base : Nat) (stored : List Controller) : Prop where
  kept : ((stored.filter isKept).filterMap typedIndex?).Nodup
  serial : countOf virtioSerial stored ≤ 1
  scsi : ∀ c ∈ stored, c.type = scsi → ∀ i ∈ c.index,
    i ∉ List.range' base (countOf virtioScsi stored)

/-- **Collisions of controllers**: completed controllers differ by type and index just when the
stored ones stay apart. -/
theorem nodup_typedIndices_iff (ix : DiskIndices) (stored : List Controller) :
    ((completed ix stored).filterMap typedIndex?).Nodup ↔ StayApart ix.nextController stored := by
  have htyped {c : Controller} {type : String} {i : Nat} :
      c.typedIndex? = some (type, i) ↔ c.type = type ∧ i ∈ c.index := by
    simp only [typedIndex?, Option.map_eq_some_iff, Prod.mk.injEq, Option.mem_def]
    exact ⟨fun ⟨_, h, htype, hi⟩ => ⟨htype, hi ▸ h⟩, fun ⟨htype, h⟩ => ⟨i, h, htype, rfl⟩⟩
  have hscsi : ((stored.filter isKept).filterMap typedIndex?).Disjoint
        ((List.range' ix.nextController (countOf virtioScsi stored)).map (scsi, ·)) ↔
      ∀ c ∈ stored, c.type = scsi → ∀ i ∈ c.index,
        i ∉ List.range' ix.nextController (countOf virtioScsi stored) := by
    constructor
    · intro h c hc htype i hi hgiven
      have hkept : c.isKept := decide_eq_true (htype ▸ by decide)
      exact h (List.mem_filterMap.mpr ⟨c, List.mem_filter.mpr ⟨hc, hkept⟩, htyped.mpr ⟨htype, hi⟩⟩)
        (List.mem_map.mpr ⟨i, hgiven, rfl⟩)
    · rintro h t ht hgiven
      obtain ⟨c, hc, hindex⟩ := List.mem_filterMap.mp ht
      obtain ⟨i, hi, rfl⟩ := List.mem_map.mp hgiven
      obtain ⟨htype, hmem⟩ := htyped.mp hindex
      exact h c (List.mem_filter.mp hc).1 htype i hmem hi
  have hserial : ((stored.filter isKept).filterMap typedIndex?).Disjoint
      (List.replicate (countOf virtioSerial stored) (virtioSerial, 0)) := by
    intro t ht ht'
    obtain ⟨c, hc, hindex⟩ := List.mem_filterMap.mp ht
    obtain rfl := List.eq_of_mem_replicate ht'
    exact (of_decide_eq_true (List.mem_filter.mp hc).2).1 (htyped.mp hindex).1
  have hgiven : ((List.range' ix.nextController (countOf virtioScsi stored)).map
      fun i => (scsi, i)).Nodup :=
    (List.nodup_range' 1).map fun _ _ h => (Prod.mk.inj h).2
  have hapart : (List.replicate (countOf virtioSerial stored) (virtioSerial, 0)).Disjoint
      ((List.range' ix.nextController (countOf virtioScsi stored)).map (scsi, ·)) := by
    intro t ht ht'
    obtain ⟨i, -, rfl⟩ := List.mem_map.mp ht'
    exact absurd (Prod.mk.inj (List.eq_of_mem_replicate ht)).1 (by decide)
  rw [(perm_typedIndices ix stored).nodup_iff, List.nodup_append', List.nodup_append',
    List.nodup_replicate, List.disjoint_append_left, hscsi]
  exact ⟨fun ⟨⟨hkept, hone, _⟩, _, hfree, _⟩ => ⟨hkept, hone, hfree⟩,
    fun ⟨hkept, hone, hfree⟩ => ⟨⟨hkept, hone, hserial⟩, hgiven, hfree, hapart⟩⟩

end Controller

/-! ### The controllers of a list of devices -/

namespace DeviceClasses

open Controller

/-- The first index given to a virtio-scsi controller. -/
def scsiBase (arch : Architecture) : Nat :=
  if arch.family = .ppc then 1 else 0

lemma nextController_initial (arch : Architecture) (cd : CdInterface) :
    (DiskIndices.initial arch cd).nextController = scsiBase arch := by
  cases arch <;> rfl

/-- The controller that a peripheral is. -/
def controllerOf? (p : Peripheral) : Option Controller :=
  match p.kind with
  | .controller c => some c
  | _ => none

lemma controllerOf?_eq_none {p : Peripheral} (h : typeOf p ≠ .controller) :
    controllerOf? p = none := by
  obtain ⟨kind, a⟩ := p
  cases kind with
  | controller c => exact absurd rfl h
  | _ => rfl

/-- The controller that is stored as a device: the device is plugged and its parameters can be
read. -/
def controller? (d : Device) : Option Controller :=
  if d.plugged ∧ d.type = .controller then (Peripheral.controller d).toOption else none

lemma controller?_eq_some_iff {d : Device} {c : Controller} :
    controller? d = some c ↔
      d.plugged ∧ d.type = .controller ∧ Peripheral.controller d = .ok c :=
  read?_eq_some_iff

/-- A controller is stored with its subtype as type. -/
lemma type_of_controller {d : Device} {c : Controller} (h : Peripheral.controller d = .ok c) :
    c.type = d.subtype := by
  simp only [Peripheral.controller, bind_eq_ok_iff] at h
  obtain ⟨model, -, index, -, ports, -, h⟩ := h
  cases h
  rfl

section

variable (cs : DeviceClasses) {d : Device}

/-- A device that is no controller changes neither the controllers nor the indices. -/
lemma add_of_controller?_eq_none (h : controller? d = none) :
    (cs.add d).peripherals.filterMap controllerOf? = cs.peripherals.filterMap controllerOf? ∧
      (cs.add d).indices = cs.indices := by
  by_cases hperipheral : isPeripheral d
  · obtain ⟨kind, ix, hkind, hadd⟩ := cs.add_of_isPeripheral hperipheral
    have htype : d.type ≠ .controller := by
      intro htype
      rw [Peripheral.kind?_of_controller htype] at hkind
      obtain ⟨c, hread, -⟩ := map_eq_ok_iff.mp hkind
      cases h.symm.trans (controller?_eq_some_iff.mpr
        ⟨(isPeripheral_iff.mp hperipheral).1, htype, hread⟩)
    have hother : controllerOf? ⟨kind, d.address⟩ = none :=
      controllerOf?_eq_none (typeOf_of_kind? hkind d.address ▸ htype)
    rw [hadd]
    exact ⟨by simp [hother], Peripheral.indices_of_kind?_of_ne htype hkind⟩
  · obtain ⟨hsame, hindices⟩ := cs.add_of_not_isPeripheral hperipheral
    exact ⟨by rw [hsame], hindices⟩

/-- A controller is completed with the indices given out before. -/
lemma add_of_controller?_eq_some {c : Controller} (h : controller? d = some c) :
    (cs.add d).peripherals.filterMap controllerOf? =
        cs.peripherals.filterMap controllerOf? ++ [(c.complete cs.indices).1] ∧
      (cs.add d).indices = (c.complete cs.indices).2 := by
  obtain ⟨hplugged, htype, hread⟩ := controller?_eq_some_iff.mp h
  have hcomplete : Peripheral.kind? d cs.indices =
      .ok (some (.controller (c.complete cs.indices).1, (c.complete cs.indices).2)) := by
    rw [Peripheral.kind?_of_controller htype, hread]
    rfl
  obtain ⟨kind, ix, hkind, hadd⟩ := cs.add_of_isPeripheral <|
    isPeripheral_iff.mpr ⟨hplugged, Peripheral.exists_kind?_iff.mp ⟨_, hcomplete⟩⟩
  cases hcomplete.symm.trans hkind
  rw [hadd, List.filterMap_append]
  exact ⟨rfl, rfl⟩

end

/-- The controllers are those of the devices that store one, completed in the order of the list. -/
theorem controllers_ofDevices (ix : DiskIndices) (devices : List Device) :
    (ofDevices ix devices).peripherals.filterMap controllerOf? =
      completed ix (devices.filterMap controller?) := by
  have hfoldl (cs : DeviceClasses) :
      (devices.foldl add cs).peripherals.filterMap controllerOf? =
        cs.peripherals.filterMap controllerOf? ++
          completed cs.indices (devices.filterMap controller?) := by
    induction devices generalizing cs with
    | nil => exact (List.append_nil _).symm
    | cons d rest ih =>
      rw [List.foldl_cons, ih]
      cases h : controller? d with
      | none =>
        obtain ⟨hcontrollers, hindices⟩ := cs.add_of_controller?_eq_none h
        rw [hcontrollers, hindices, List.filterMap_cons_none h]
      | some c =>
        obtain ⟨hcontrollers, hindices⟩ := cs.add_of_controller?_eq_some h
        rw [hcontrollers, hindices, List.filterMap_cons_some h, completed, List.append_assoc]
        rfl
  exact hfoldl (initial ix)

end DeviceClasses

end VmDescriptor
