import Mathlib.Order.Bounds.Defs
import Mathlib.Tactic.Lemma
import VmDescriptor.DiskIndices

/-!
What the indices of disks have in common.

Within a family indices grow, and those of the interface that shares its bus with the CD-ROMs
keep clear of the reserved ones.
-/

namespace VmDescriptor.DiskIndices

lemma le_leastFree (taken : List Nat) (n : Nat) : n ≤ leastFree taken n := by
  induction taken, n using leastFree.induct with
  | case1 taken n h ih =>
    rw [leastFree, if_pos h]
    omega
  | case2 taken n h =>
    have heq : leastFree taken n = n := by rw [leastFree, if_neg h]
    exact Nat.le_of_eq heq.symm

lemma leastFree_notMem (taken : List Nat) (n : Nat) : leastFree taken n ∉ taken := by
  induction taken, n using leastFree.induct with
  | case1 taken n h ih =>
    have hle := le_leastFree (taken.erase n) (n + 1)
    rw [leastFree, if_pos h]
    intro hmem
    exact ih ((List.mem_erase_of_ne (by omega)).mpr hmem)
  | case2 taken n h => rwa [leastFree, if_neg h]

lemma leastFree_le {taken : List Nat} {n m : Nat} (hle : n ≤ m) (hfree : m ∉ taken) :
    leastFree taken n ≤ m := by
  induction taken, n using leastFree.induct with
  | case1 taken n h ih =>
    have hne : n ≠ m := fun heq => hfree (heq ▸ h)
    rw [leastFree, if_pos h]
    exact ih (by omega) fun hmem => hfree (List.mem_of_mem_erase hmem)
  | case2 taken n h => rwa [leastFree, if_neg h]

/-- A number that is taken is passed over. -/
lemma leastFree_succ {taken : List Nat} {n : Nat} (h : n ∈ taken) :
    leastFree taken (n + 1) = leastFree taken n := by
  have hne : n ≠ leastFree taken n := fun heq => leastFree_notMem taken n (heq ▸ h)
  have hle := le_leastFree taken n
  exact Nat.le_antisymm (leastFree_le (by omega) (leastFree_notMem _ _))
    (leastFree_le (Nat.le_of_succ_le (le_leastFree _ _)) (leastFree_notMem _ _))

lemma leastFree_nil (n : Nat) : leastFree [] n = n := by
  rw [leastFree, if_neg (by simp)]

/-- Numbers that are taken are passed over once each. -/
lemma leastFree_add_countP_le (taken : List Nat) (n : Nat) :
    leastFree taken n + taken.countP (leastFree taken n ≤ ·) ≤ n + taken.countP (n ≤ ·) := by
  induction taken, n using leastFree.induct with
  | case1 taken n h ih =>
    have hlt := le_leastFree (taken.erase n) (n + 1)
    rw [leastFree, if_pos h]
    -- The number passed over is counted from `n` on, and no longer beyond it.
    have hperm := List.perm_cons_erase h
    have hfrom : taken.countP (n ≤ ·) = (taken.erase n).countP (n ≤ ·) + 1 := by
      rw [hperm.countP_eq, List.countP_cons_of_pos (by simp)]
    have hbeyond : taken.countP (leastFree (taken.erase n) (n + 1) ≤ ·) =
        (taken.erase n).countP (leastFree (taken.erase n) (n + 1) ≤ ·) := by
      rw [hperm.countP_eq, List.countP_cons_of_neg (by simpa using Nat.lt_of_succ_le hlt)]
    have hmono : (taken.erase n).countP (n + 1 ≤ ·) ≤ (taken.erase n).countP (n ≤ ·) :=
      List.countP_mono_left fun m _ hm => by simp at hm ⊢; omega
    omega
  | case2 taken n h =>
    have heq : leastFree taken n = n := by rw [leastFree, if_neg h]
    exact Nat.le_of_eq (by rw [heq])

/-- The index that a family starts from. -/
def start (ix : DiskIndices) (family : BusFamily) : Nat :=
  (ix.last family).elim 0 (· + 1)

variable (ix : DiskIndices) (interface : DiskInterface)

lemma reserved_take : (ix.take interface).2.reserved = ix.reserved := rfl

lemma start_take_self :
    (ix.take interface).2.start interface.family = (ix.take interface).1 + 1 := by
  simp [start, take]

lemma start_take_of_ne {family : BusFamily} (h : family ≠ interface.family) :
    (ix.take interface).2.start family = ix.start family := by
  simp [start, take, h]

lemma start_le_take : ix.start interface.family ≤ (ix.take interface).1 :=
  le_leastFree _ _

lemma start_le_start_take (family : BusFamily) :
    ix.start family ≤ (ix.take interface).2.start family := by
  by_cases h : family = interface.family
  · subst h
    have := ix.start_le_take interface
    rw [start_take_self]
    omega
  · exact Nat.le_of_eq (start_take_of_ne ix interface h).symm

lemma take_notMem_reserved : (ix.take interface).1 ∉ ix.reserved interface :=
  leastFree_notMem _ _

lemma last_take (family : BusFamily) :
    (ix.take interface).2.last family =
      if family = interface.family then some (ix.take interface).1 else ix.last family := rfl

/-- The index given out is the least one after the last of its family that is not reserved. -/
theorem isLeast_take : IsLeast
    {n | (∀ i ∈ ix.last interface.family, i < n) ∧ n ∉ ix.reserved interface}
    (ix.take interface).1 := by
  have hstart (n : Nat) : (∀ i ∈ ix.last interface.family, i < n) ↔
      ix.start interface.family ≤ n := by
    unfold start
    cases ix.last interface.family with
    | none => simp
    | some i =>
      simp only [Option.mem_some_iff, forall_eq']
      exact Nat.lt_iff_add_one_le
  refine ⟨⟨(hstart _).mpr (ix.start_le_take interface), ix.take_notMem_reserved interface⟩, ?_⟩
  rintro n ⟨hafter, hfree⟩
  exact leastFree_le ((hstart n).mp hafter) hfree

lemma take_of_reserved_eq_nil (h : ix.reserved interface = []) :
    (ix.take interface).1 = ix.start interface.family := by
  simp only [take, h, leastFree_nil, start]

/-- The indices reserved for CD-ROMs. -/
def reservedAll : List Nat :=
  ix.payload.toList ++ ix.cdrom.toList

/-- How far a family has got, with the reserved indices that it still has to pass over. -/
def reach (family : BusFamily) : Nat :=
  ix.start family + ix.reservedAll.countP (ix.start family ≤ ·)

lemma reservedAll_take : (ix.take interface).2.reservedAll = ix.reservedAll := rfl

lemma take_add_countP_le : (ix.take interface).1 +
    ix.reservedAll.countP ((ix.take interface).1 ≤ ·) ≤ ix.reach interface.family := by
  by_cases hshared : ix.cd.diskInterface? = some interface
  · have hreserved : ix.reserved interface = ix.reservedAll := by
      rw [reserved, if_pos hshared, reservedAll]
    rw [reach, ← hreserved]
    exact leastFree_add_countP_le _ _
  · have htake := take_of_reserved_eq_nil ix interface (by rw [reserved, if_neg hshared])
    exact Nat.le_of_eq (by rw [htake, reach])

lemma take_le_reach : (ix.take interface).1 ≤ ix.reach interface.family :=
  Nat.le_trans (Nat.le_add_right _ _) (ix.take_add_countP_le interface)

/-- One more index takes a family one further. -/
lemma reach_take_le (family : BusFamily) :
    (ix.take interface).2.reach family ≤ ix.reach family + 1 := by
  by_cases h : family = interface.family
  · subst h
    have hle := ix.take_add_countP_le interface
    have hmono : ix.reservedAll.countP ((ix.take interface).1 + 1 ≤ ·) ≤
        ix.reservedAll.countP ((ix.take interface).1 ≤ ·) :=
      List.countP_mono_left fun m _ hm => by simp at hm ⊢; omega
    rw [reach, reservedAll_take, start_take_self]
    omega
  · rw [reach, reservedAll_take, start_take_of_ne ix interface h]
    exact Nat.le_succ _

end VmDescriptor.DiskIndices
