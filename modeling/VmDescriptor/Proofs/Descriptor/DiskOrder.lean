import Mathlib.Data.List.Nodup
import Mathlib.Data.List.Pairwise
import VmDescriptor.Descriptor.Disks
import VmDescriptor.Proofs.Text.Utf8

/-!
The order in which the disks of a machine are described.

Sorting is stable, so sorting by name and then by whether a disk is booted from puts the boot
disks first, then follows the names, and keeps the order of the machine among disks of one name.
-/

namespace VmDescriptor.Descriptor

/-! ### Stable sorting -/

section

variable {α : Type} {l : List α} {a b : α}

/-- In a list without repetitions two elements stand in one order only. -/
lemma not_sublist_swap (hl : l.Nodup) (h : [a, b].Sublist l) : ¬ [b, a].Sublist l := by
  induction l with
  | nil => exact absurd h (by simp)
  | cons x rest ih =>
    obtain ⟨hx, hrest⟩ := List.nodup_cons.mp hl
    intro h'
    rcases List.sublist_cons_iff.mp h with hin | ⟨_, heq, hin⟩
    · rcases List.sublist_cons_iff.mp h' with hin' | ⟨_, heq, -⟩
      · exact ih hrest hin hin'
      · cases heq
        exact hx (hin.subset (List.mem_cons_of_mem _ (List.mem_singleton_self _)))
    · cases heq
      rcases List.sublist_cons_iff.mp h' with hin' | ⟨_, heq, -⟩
      · exact hx (hin'.subset (List.mem_cons_of_mem _ (List.mem_singleton_self _)))
      · cases heq
        exact hx (hin.subset (List.mem_singleton_self _))

/-- Sorting orders a list and keeps the order of elements that compare alike. -/
theorem pairwise_mergeSort_stable {le : α → α → Bool} {R : α → α → Prop}
    (htrans : ∀ a b c, le a b → le b c → le a c) (htotal : ∀ a b, le a b || le b a)
    (hl : l.Nodup) (h : l.Pairwise R) :
    (l.mergeSort le).Pairwise fun a b => le a b ∧ (le b a → R a b) := by
  have hsorted := List.pairwise_mergeSort htrans htotal l
  have hnodup : (l.mergeSort le).Nodup := (List.mergeSort_perm l le).nodup_iff.mpr hl
  -- Any two elements stand in the list in one order or the other.
  have hpairs : l.Pairwise fun x y => [x, y].Sublist l ∨ [y, x].Sublist l :=
    List.pairwise_iff_forall_sublist.mpr fun hxy => .inl hxy
  refine List.pairwise_iff_forall_sublist.mpr fun {a b} hab => ?_
  refine ⟨List.pairwise_iff_forall_sublist.mp hsorted hab, fun hle => ?_⟩
  have hne : a ≠ b := List.pairwise_iff_forall_sublist.mp hnodup hab
  have ha : a ∈ l := List.mem_mergeSort.mp (hab.subset (by simp))
  have hb : b ∈ l := List.mem_mergeSort.mp (hab.subset (by simp))
  have hsymm : Std.Symm fun x y => [x, y].Sublist l ∨ [y, x].Sublist l := ⟨fun _ _ => Or.symm⟩
  rcases hpairs.forall ha hb hne with hlist | hlist
  · exact List.pairwise_iff_forall_sublist.mp h hlist
  · have hswap := List.pair_sublist_mergeSort htrans htotal hle hlist
    exact absurd hswap (not_sublist_swap hnodup hab)

end

/-! ### The order of disks -/

lemma sortedDisks_perm (disks : List Disk) : (sortedDisks disks).Perm disks :=
  (List.mergeSort_perm _ _).trans (List.mergeSort_perm _ _)

/-- Of two disks with their places in the machine's list the first one is described earlier:
boot disks come first, then names decide, by their bytes, then the places. -/
def ComesBefore (x y : Disk × Nat) : Prop :=
  (x.1.attachment.boot ∧ ¬ y.1.attachment.boot) ∨
    x.1.attachment.boot = y.1.attachment.boot ∧
      (x.1.name < y.1.name ∨ x.1.name = y.1.name ∧ x.2 < y.2)

lemma ComesBefore.asymm {x y : Disk × Nat} (h : ComesBefore x y) : ¬ ComesBefore y x := by
  rintro (⟨hy, hx⟩ | ⟨hboot, hname⟩)
  · rcases h with ⟨hx', -⟩ | ⟨hboot, -⟩
    · exact hx hx'
    · exact hx (hboot ▸ hy)
  · rcases h with ⟨hx, hy⟩ | ⟨-, hname'⟩
    · exact hy (hboot ▸ hx)
    · rcases hname with hlt | ⟨heq, hplace⟩ <;> rcases hname' with hlt' | ⟨heq', hplace'⟩
      · exact String.lt_asymm hlt hlt'
      · exact String.lt_irrefl _ (heq' ▸ hlt)
      · exact String.lt_irrefl _ (heq ▸ hlt')
      · exact Nat.lt_asymm hplace hplace'

/-- Names decide by their bytes. -/
theorem comesBefore_iff_utf8 {x y : Disk × Nat} :
    ComesBefore x y ↔ (x.1.attachment.boot ∧ ¬ y.1.attachment.boot) ∨
      x.1.attachment.boot = y.1.attachment.boot ∧
        (Text.utf8 x.1.name < Text.utf8 y.1.name ∨ x.1.name = y.1.name ∧ x.2 < y.2) := by
  rw [ComesBefore, Text.utf8_lt_iff]

/-- Whether the name of the first disk does not come after that of the second. -/
def byName (x y : Disk × Nat) : Bool := x.1.name ≤ y.1.name

/-- Whether the first disk is a boot disk if the second one is. -/
def byBoot (x y : Disk × Nat) : Bool := x.1.attachment.boot || !y.1.attachment.boot

lemma byName_trans (x y z : Disk × Nat) (hxy : byName x y) (hyz : byName y z) : byName x z := by
  simp only [byName, decide_eq_true_iff] at hxy hyz ⊢
  exact String.le_trans hxy hyz

lemma byName_total (x y : Disk × Nat) : byName x y || byName y x := by
  simp only [byName, Bool.or_eq_true, decide_eq_true_iff]
  exact String.le_total _ _

lemma byBoot_trans (x y z : Disk × Nat) : byBoot x y → byBoot y z → byBoot x z := by
  simp only [byBoot]
  cases x.1.attachment.boot <;> cases y.1.attachment.boot <;> cases z.1.attachment.boot <;> decide

lemma byBoot_total (x y : Disk × Nat) : byBoot x y || byBoot y x := by
  simp only [byBoot]
  cases x.1.attachment.boot <;> cases y.1.attachment.boot <;> decide

/-- Sorting by name and then by boot disks, with the earlier order among equals. -/
lemma comesBefore_of_sorted {x y : Disk × Nat} (hboot : byBoot x y)
    (hties : byBoot y x → byName x y ∧ (byName y x → x.2 < y.2)) : ComesBefore x y := by
  simp only [byBoot, byName, Bool.or_eq_true, Bool.not_eq_true', decide_eq_true_iff]
    at hboot hties
  by_cases hsame : x.1.attachment.boot = y.1.attachment.boot
  · obtain ⟨hname, hplace⟩ := hties (by rw [hsame]; cases y.1.attachment.boot <;> simp)
    refine .inr ⟨hsame, ?_⟩
    by_cases hle : y.1.name ≤ x.1.name
    · exact .inr ⟨String.le_antisymm hname hle, hplace hle⟩
    · exact .inl (String.not_le.mp hle)
  · left
    revert hsame hboot
    cases x.1.attachment.boot <;> cases y.1.attachment.boot <;> simp

lemma map_fst_mergeSort (disks : List Disk) :
    ((disks.zipIdx.mergeSort byName).mergeSort byBoot).map Prod.fst = sortedDisks disks := by
  have hbyBoot := List.map_mergeSort (l := disks.zipIdx.mergeSort byName) (f := Prod.fst)
    (r := byBoot) (s := fun a b => a.attachment.boot || !b.attachment.boot)
    fun _ _ _ _ => rfl
  have hbyName := List.map_mergeSort (l := disks.zipIdx) (f := Prod.fst) (r := byName)
    (s := fun a b => a.name ≤ b.name) fun _ _ _ _ => rfl
  rw [hbyBoot, hbyName, List.zipIdx_map_fst]
  rfl

/-- **The order of disks**: a machine's disks are described by `ComesBefore`. -/
theorem exists_pairwise_comesBefore (disks : List Disk) :
    ∃ listed : List (Disk × Nat), listed.Perm disks.zipIdx ∧
      listed.map Prod.fst = sortedDisks disks ∧ listed.Pairwise ComesBefore := by
  have hplaces : disks.zipIdx.Pairwise fun x y => x.2 < y.2 := by
    have h : (disks.zipIdx.map Prod.snd).Pairwise (· < ·) := by
      rw [List.zipIdx_map_snd]
      exact List.pairwise_lt_range'
    exact List.pairwise_map.mp h
  have hnodup : disks.zipIdx.Nodup := hplaces.imp fun h heq => by
    rw [heq] at h
    exact Nat.lt_irrefl _ h
  have hnames : (disks.zipIdx.mergeSort byName).Pairwise fun x y =>
      byName x y ∧ (byName y x → x.2 < y.2) :=
    pairwise_mergeSort_stable byName_trans byName_total hnodup hplaces
  have hboots : ((disks.zipIdx.mergeSort byName).mergeSort byBoot).Pairwise fun x y =>
      byBoot x y ∧ (byBoot y x → byName x y ∧ (byName y x → x.2 < y.2)) :=
    pairwise_mergeSort_stable byBoot_trans byBoot_total
      ((List.mergeSort_perm _ byName).nodup_iff.mpr hnodup) hnames
  exact ⟨(disks.zipIdx.mergeSort byName).mergeSort byBoot,
    (List.mergeSort_perm _ _).trans (List.mergeSort_perm _ _), map_fst_mergeSort disks,
    hboots.imp fun h => comesBefore_of_sorted h.1 h.2⟩

/-- Disks that stand in order stay so. -/
lemma sortedDisks_eq_self {disks : List Disk} (h : disks.Pairwise fun a b =>
    a.name ≤ b.name ∧ (a.attachment.boot || !b.attachment.boot)) : sortedDisks disks = disks := by
  have hname : disks.mergeSort (fun a b => a.name ≤ b.name) = disks :=
    List.mergeSort_of_pairwise (h.imp fun hab => decide_eq_true hab.1)
  rw [sortedDisks, hname, List.mergeSort_of_pairwise (h.imp fun hab => hab.2)]

/-- What the order of disks goes by before their places. -/
def sortKey (disk : Disk) : Bool × String := (disk.attachment.boot, disk.name)

/-- Disks with different keys are in one order wherever they stand. -/
lemma ComesBefore.of_sortKey_ne {x y : Disk × Nat} (h : ComesBefore x y)
    (hne : sortKey x.1 ≠ sortKey y.1) (i j : Nat) : ComesBefore (x.1, i) (y.1, j) := by
  rcases h with h | ⟨hboot, hlt | ⟨hname, -⟩⟩
  · exact .inl h
  · exact .inr ⟨hboot, .inl hlt⟩
  · exact absurd (Prod.ext hboot hname) hne

lemma pairwise_sortedDisks {disks : List Disk} (hkeys : (disks.map sortKey).Nodup) :
    (sortedDisks disks).Pairwise fun a b => ComesBefore (a, 0) (b, 0) := by
  obtain ⟨listed, hperm, hsorted, hordered⟩ := exists_pairwise_comesBefore disks
  have hlisted : (listed.map fun x => sortKey x.1).Nodup := by
    have hmap : (listed.map fun x => sortKey x.1).Perm (disks.zipIdx.map fun x => sortKey x.1) :=
      hperm.map _
    rw [hmap.nodup_iff]
    rwa [← List.zipIdx_map_fst 0 disks, List.map_map] at hkeys
  rw [← hsorted, List.pairwise_map]
  exact (hordered.and (List.pairwise_map.mp hlisted)).imp fun ⟨h, hne⟩ => h.of_sortKey_ne hne 0 0

/-- **Sorting is canonical** for disks with distinct keys: they may be listed in any order. -/
theorem sortedDisks_eq_of_perm {disks disks' : List Disk} (hkeys : (disks.map sortKey).Nodup)
    (h : disks.Perm disks') : sortedDisks disks = sortedDisks disks' := by
  have hkeys' : (disks'.map sortKey).Nodup := (h.map sortKey).nodup_iff.mp hkeys
  exact List.Perm.eq_of_pairwise (fun _ _ _ _ hab hba => absurd hba hab.asymm)
    (pairwise_sortedDisks hkeys) (pairwise_sortedDisks hkeys')
    ((sortedDisks_perm disks).trans (h.trans (sortedDisks_perm disks').symm))

/-- What is found first among the disks in order is what the first disk has of those that have
any. -/
theorem exists_first_of_findSome? {ε : Type} {disks : List Disk} {find : Disk → Option ε} {e : ε}
    (h : (sortedDisks disks).findSome? find = some e) :
    ∃ i disk, disks[i]? = some disk ∧ find disk = some e ∧
      ∀ j disk', disks[j]? = some disk' → (find disk').isSome → j ≠ i →
        ComesBefore (disk, i) (disk', j) := by
  obtain ⟨listed, hperm, hmap, hbefore⟩ := exists_pairwise_comesBefore disks
  rw [← hmap, List.findSome?_map, List.findSome?_eq_some_iff] at h
  obtain ⟨earlier, ⟨disk, i⟩, later, rfl, hfind, hearlier⟩ := h
  have hmem {j : Nat} {disk' : Disk} :
      (disk', j) ∈ earlier ++ (disk, i) :: later ↔ disks[j]? = some disk' :=
    hperm.mem_iff.trans List.mk_mem_zipIdx_iff_getElem?
  refine ⟨i, disk, hmem.mp (by simp), hfind, fun j disk' hj hfound hne => ?_⟩
  rcases List.mem_append.mp (hmem.mpr hj) with hbefore' | hmem'
  · have hnone : find disk' = none := hearlier _ hbefore'
    rw [hnone] at hfound
    cases hfound
  · rcases List.mem_cons.mp hmem' with heq | hlater
    · exact absurd (congrArg Prod.snd heq) hne
    · exact (List.pairwise_cons.mp (List.pairwise_append.mp hbefore).2.1).1 _ hlater

end VmDescriptor.Descriptor
