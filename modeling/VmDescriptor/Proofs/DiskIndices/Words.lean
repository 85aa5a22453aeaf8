import Mathlib.Data.List.Basic
import VmDescriptor.Proofs.DiskIndices.Calls
import VmDescriptor.Proofs.Products

/-!
Indices counted in 32 bits.

A counter of 32 bits stops before the first number that does not fit. Until then the calls on
such counters return what they return on unbounded ones, so calls that are few enough all return.
-/

namespace VmDescriptor.DiskIndices

/-- The indices given out so far, in 32 bits. -/
structure Words where
  cd : CdInterface
  payload : Option UInt32
  cdrom : Option UInt32
  last : BusFamily → Option UInt32
  nextController : UInt32

namespace Words

/-- No index has been given out. -/
def initial (arch : Architecture) (cd : CdInterface) : Words where
  cd := cd
  payload := none
  cdrom := none
  last _ := none
  nextController := .ofNat ((controllerBase? arch .virtioScsi).getD 0)

/-- The indices that a disk interface must skip. -/
def reserved (w : Words) (interface : DiskInterface) : List UInt32 :=
  if w.cd.diskInterface? = some interface then w.payload.toList ++ w.cdrom.toList else []

/-- The index that a family starts from, if the last one has a next one. -/
def start? (w : Words) (family : BusFamily) : Option UInt32 :=
  match w.last family with
  | some n => next? n
  | none => some 0

/-- The least number from `n` on that is not in the list, if the count gets there. -/
def leastFree? (taken : List UInt32) (n : UInt32) : Option UInt32 :=
  if n ∈ taken then
    match _ : next? n with
    | some m => leastFree? taken m
    | none => none
  else some n
termination_by UInt32.size - n.toNat
decreasing_by
  have := next?_eq_some_iff.mp ‹next? n = some m›
  have : m.toNat < UInt32.size := m.toNat_lt
  omega

/-- Gives out the next index of a disk interface. -/
def take? (w : Words) (interface : DiskInterface) : Option (UInt32 × Words) := do
  let start ← w.start? interface.family
  let index ← leastFree? (w.reserved interface) start
  return (index,
    { w with last := fun f => if f = interface.family then some index else w.last f })

/-- Makes a call, if its count fits. -/
def perform? (w : Words) : Call → Option (UInt32 × Words)
  | .payload =>
    some (.ofNat w.cd.payloadIndex, { w with payload := some (.ofNat w.cd.payloadIndex) })
  | .cdrom => some (.ofNat w.cd.cdromIndex, { w with cdrom := some (.ofNat w.cd.cdromIndex) })
  | .controller => do
    let next ← next? w.nextController
    return (w.nextController, { w with nextController := next })
  | .disk interface => w.take? interface

/-- Calls one after the other, each with the index that it returns, if all counts fit. -/
def history? : Words → List Call → Option (List (Call × UInt32))
  | _, [] => some []
  | w, c :: rest => do
    let (n, w) ← w.perform? c
    let past ← w.history? rest
    return (c, n) :: past

/-- The state with its numbers unbounded. -/
def toIndices (w : Words) : DiskIndices where
  cd := w.cd
  payload := w.payload.map UInt32.toNat
  cdrom := w.cdrom.map UInt32.toNat
  last f := (w.last f).map UInt32.toNat
  nextController := w.nextController.toNat

variable {w w' : Words} {n : UInt32}

/-! ### One call -/

lemma start?_eq_some_iff {family : BusFamily} :
    w.start? family = some n ↔ n.toNat = w.toIndices.start family := by
  unfold start? start toIndices
  cases hlast : w.last family with
  | none => simp [hlast, ← UInt32.toNat_inj, eq_comm]
  | some m => simp [hlast, next?_eq_some_iff]

lemma reserved_toIndices (w : Words) (interface : DiskInterface) :
    w.toIndices.reserved interface = (w.reserved interface).map UInt32.toNat := by
  unfold DiskIndices.reserved reserved toIndices
  dsimp only
  split <;> cases w.payload <;> cases w.cdrom <;> rfl

lemma leastFree?_eq_some_iff {taken : List UInt32} {m : UInt32} :
    leastFree? taken n = some m ↔ m.toNat = leastFree (taken.map UInt32.toNat) n.toNat := by
  have hmem (n : UInt32) : n.toNat ∈ taken.map UInt32.toNat ↔ n ∈ taken :=
    List.mem_map_of_injective fun _ _ => UInt32.toNat_inj.mp
  induction n using leastFree?.induct taken with
  | case1 n htaken next hnext ih =>
    have hstep : leastFree? taken n = leastFree? taken next := by
      rw [leastFree?, if_pos htaken]
      split <;> simp_all
    rw [next?_eq_some_iff.mp hnext, leastFree_succ ((hmem n).mpr htaken)] at ih
    rwa [hstep]
  | case2 n htaken hnext =>
    have hstep : leastFree? taken n = none := by
      rw [leastFree?, if_pos htaken]
      split <;> simp_all
    -- Were there a number to stop at, the one after `n` would fit.
    have hlt : m.toNat < UInt32.size := m.toNat_lt
    have hle := le_leastFree (taken.map UInt32.toNat) (n.toNat + 1)
    rw [hstep, ← leastFree_succ ((hmem n).mpr htaken)]
    refine ⟨fun h => by simp at h, fun h => ?_⟩
    have hfits : n.toNat + 1 < UInt32.size := by omega
    simp [next?, hfits] at hnext
  | case3 n hfree =>
    have hleast : leastFree (taken.map UInt32.toNat) n.toNat = n.toNat := by
      rw [leastFree, if_neg (mt (hmem n).mp hfree)]
    rw [leastFree?, if_neg hfree, hleast, Option.some.injEq, ← UInt32.toNat_inj, eq_comm]

/-- A disk takes the index that it takes in unbounded numbers. -/
lemma take?_eq_some_iff {interface : DiskInterface} :
    w.take? interface = some (n, w') ↔ n.toNat = (w.toIndices.take interface).1 ∧
      w' = { w with last := fun f => if f = interface.family then some n else w.last f } := by
  have hsome (first : UInt32) (hfirst : w.start? interface.family = some first) :
      leastFree? (w.reserved interface) first = some n ↔
        n.toNat = (w.toIndices.take interface).1 := by
    rw [leastFree?_eq_some_iff, ← reserved_toIndices, start?_eq_some_iff.mp hfirst]
    rfl
  simp only [take?, Option.bind_eq_bind, Option.pure_def, Option.bind_eq_some_iff,
    Option.some.injEq, Prod.mk.injEq]
  constructor
  · rintro ⟨first, hfirst, index, hindex, rfl, rfl⟩
    exact ⟨(hsome first hfirst).mp hindex, rfl⟩
  · rintro ⟨hindex, rfl⟩
    have hlt : n.toNat < UInt32.size := n.toNat_lt
    have hle := w.toIndices.start_le_take interface
    have hfirst : w.start? interface.family = some (.ofNat (w.toIndices.start interface.family)) :=
      start?_eq_some_iff.mpr (UInt32.toNat_ofNat_of_lt' (by omega))
    exact ⟨_, hfirst, n, (hsome _ hfirst).mpr hindex, rfl, rfl⟩

/-- A call that returns does what it does in unbounded numbers. -/
lemma perform_toIndices {c : Call} (h : w.perform? c = some (n, w')) :
    w.toIndices.perform c = (n.toNat, w'.toIndices) := by
  cases c with
  | payload =>
    cases h
    rfl
  | cdrom =>
    cases h
    cases hcd : w.cd <;> simp [DiskIndices.perform, reserveCdrom, toIndices, hcd] <;> rfl
  | controller =>
    simp only [perform?, Option.bind_eq_bind, Option.pure_def, Option.bind_eq_some_iff,
      Option.some.injEq, Prod.mk.injEq] at h
    obtain ⟨next, hnext, rfl, rfl⟩ := h
    rw [DiskIndices.perform, takeController, toIndices, toIndices, next?_eq_some_iff.mp hnext]
  | disk interface =>
    obtain ⟨hindex, rfl⟩ := take?_eq_some_iff.mp h
    have hlast : (w.toIndices.take interface).2.last = fun f =>
        (if f = interface.family then some n else w.last f).map UInt32.toNat := by
      funext f
      rw [last_take, ← hindex]
      split <;> rfl
    calc w.toIndices.take interface
        = ((w.toIndices.take interface).1,
            { w.toIndices with last := (w.toIndices.take interface).2.last }) := rfl
      _ = _ := by rw [← hindex, hlast, toIndices, toIndices]

/-- The greatest number that a call counts to. -/
def top (w : Words) : Call → Nat
  | .payload | .cdrom => 0
  | .controller => w.nextController.toNat + 1
  | .disk interface => (w.toIndices.take interface).1

/-- A call returns just when its count fits. -/
lemma exists_perform?_iff {c : Call} :
    (∃ n w', w.perform? c = some (n, w')) ↔ w.top c < UInt32.size := by
  cases c with
  | payload => simp [perform?, top]
  | cdrom => simp [perform?, top]
  | controller =>
    by_cases h : w.nextController.toNat + 1 < UInt32.size <;> simp [perform?, next?, top, h]
  | disk interface =>
    simp only [perform?, take?_eq_some_iff, top]
    constructor
    · rintro ⟨n, w', hn, -⟩
      exact hn ▸ n.toNat_lt
    · exact fun hlt => ⟨_, _, UInt32.toNat_ofNat_of_lt' hlt, rfl⟩

/-! ### Many calls -/

/-- There is room for some calls: the controllers and the disks are numbered within 32 bits. -/
structure Room (ix : DiskIndices) (calls : List Call) : Prop where
  controllers : ix.nextController + calls.count .controller < UInt32.size
  disks (family : BusFamily) : ix.reach family + calls.countP (· ≠ .controller) ≤ UInt32.size

lemma nextController_perform (ix : DiskIndices) (c : Call) :
    (ix.perform c).2.nextController = ix.nextController + [c].count .controller := by
  cases c <;> rfl

/-- Controllers take no family further. -/
lemma reach_perform_le_countP (ix : DiskIndices) (c : Call) (family : BusFamily) :
    (ix.perform c).2.reach family ≤ ix.reach family + [c].countP (· ≠ .controller) := by
  cases c with
  | controller => exact Nat.le_refl _
  | _ => exact reach_perform_le ix _ family

lemma Room.perform {ix : DiskIndices} {c : Call} {rest : List Call} (h : Room ix (c :: rest)) :
    Room (ix.perform c).2 rest where
  controllers := by
    have hcontrollers := h.controllers
    rw [← List.singleton_append, List.count_append] at hcontrollers
    rw [nextController_perform]
    omega
  disks family := by
    have hdisks := h.disks family
    have hle := reach_perform_le_countP ix c family
    rw [← List.singleton_append, List.countP_append] at hdisks
    omega

lemma exists_history?_cons_iff {c : Call} {rest : List Call} :
    (∃ past, w.history? (c :: rest) = some past) ↔
      ∃ n w', w.perform? c = some (n, w') ∧ ∃ past, w'.history? rest = some past := by
  simp only [history?, Option.bind_eq_bind, Option.pure_def, Option.bind_eq_some_iff,
    Option.some.injEq, Prod.exists]
  constructor
  · rintro ⟨_, n, w', hperform, past, hpast, -⟩
    exact ⟨n, w', hperform, past, hpast⟩
  · rintro ⟨n, w', hperform, past, hpast⟩
    exact ⟨_, n, w', hperform, past, hpast, rfl⟩

/-- **Controllers alone**: they are numbered just when the number after the last one fits too. -/
theorem exists_history?_controllers_iff {k : Nat} :
    (∃ past, w.history? (.replicate k .controller) = some past) ↔
      w.nextController.toNat + k < UInt32.size := by
  induction k generalizing w with
  | zero => simpa [history?] using w.nextController.toNat_lt
  | succ k ih =>
    rw [List.replicate_succ, exists_history?_cons_iff]
    constructor
    · rintro ⟨n, w', hperform, hrest⟩
      have hnext := congrArg (·.2.nextController) (perform_toIndices hperform)
      have hstate : w'.nextController.toNat = w.nextController.toNat + 1 := hnext.symm
      have hlt := ih.mp hrest
      omega
    · intro hlt
      obtain ⟨n, w', hperform⟩ := exists_perform?_iff.mpr
        (show w.top .controller < UInt32.size from by rw [top]; omega)
      have hnext := congrArg (·.2.nextController) (perform_toIndices hperform)
      have hstate : w'.nextController.toNat = w.nextController.toNat + 1 := hnext.symm
      exact ⟨n, w', hperform, ih.mpr (by omega)⟩

end Words

end VmDescriptor.DiskIndices
