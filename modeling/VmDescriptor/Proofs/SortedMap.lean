import Mathlib.Data.List.Basic
import VmDescriptor.SortedMap

/-!
Maps made from lists of entries.

A map is made of its own entries, and a map made of entries has no others.
-/

namespace VmDescriptor

lemma lookup_cons_ite {κ α : Type} [BEq κ] [LawfulBEq κ] [DecidableEq κ] (k : κ) (e : κ × α)
    (rest : List (κ × α)) :
    (e :: rest).lookup k = if k = e.1 then some e.2 else rest.lookup k := by
  rw [List.lookup_cons]
  by_cases hk : k = e.1
  · rw [if_pos hk, beq_iff_eq.mpr hk]
  · rw [if_neg hk, beq_eq_false_iff_ne.mpr hk]

section

variable {κ α : Type} [BEq κ] [LawfulBEq κ] {k : κ} {entries : List (κ × α)}

lemma forall_bne_iff_notMem :
    (∀ e ∈ entries, (k != e.1) = true) ↔ k ∉ entries.map Prod.fst := by
  simp only [bne_iff_ne, List.mem_map, not_exists, not_and, ne_comm, ne_eq]

lemma lookup_eq_none_iff_notMem : entries.lookup k = none ↔ k ∉ entries.map Prod.fst :=
  List.lookup_eq_none_iff.trans forall_bne_iff_notMem

lemma mem_of_lookup_eq_some {v : α} (h : entries.lookup k = some v) : (k, v) ∈ entries := by
  obtain ⟨before, after, rfl, -⟩ := List.lookup_eq_some_iff.mp h
  exact List.mem_append_right _ List.mem_cons_self

end

variable {κ α : Type} [Ord κ]

lemma insertEntry_of_lt {k : κ} {v : α} [Std.OrientedOrd κ] {entries : List (κ × α)}
    (h : ∀ e ∈ entries, compare e.1 k = .lt) : insertEntry k v entries = entries ++ [(k, v)] := by
  induction entries with
  | nil => rfl
  | cons e rest ih =>
    have hgt : compare k e.1 = .gt := Std.OrientedCmp.gt_of_lt (h e List.mem_cons_self)
    rw [insertEntry, hgt, ih fun e he => h e (List.mem_cons_of_mem _ he), List.cons_append]

/-- The entries with those of a list set one after the other. -/
def insertEntries (entries : List (κ × α)) (added : List (κ × α)) : List (κ × α) :=
  added.foldl (fun entries e => insertEntry e.1 e.2 entries) entries

lemma insertEntries_of_increasing [Std.OrientedOrd κ] {added : List (κ × α)} :
    ∀ {entries : List (κ × α)}, KeysIncrease (entries ++ added) →
      insertEntries entries added = entries ++ added := by
  induction added with
  | nil => exact fun _ => (List.append_nil _).symm
  | cons e rest ih =>
    intro entries h
    have hlast : ∀ e' ∈ entries, compare e'.1 e.1 = .lt := fun e' he' =>
      (List.pairwise_append.mp h).2.2 e' he' e List.mem_cons_self
    have hsplit : entries ++ e :: rest = (entries ++ [e]) ++ rest := by simp
    rw [hsplit] at h ⊢
    rw [← ih h, insertEntries, List.foldl_cons, insertEntry_of_lt hlast]
    rfl

lemma mem_insertEntries {added : List (κ × α)} {e : κ × α} :
    ∀ {entries : List (κ × α)}, e ∈ insertEntries entries added → e ∈ entries ∨ e ∈ added := by
  induction added with
  | nil => exact fun h => .inl h
  | cons e' rest ih =>
    intro entries h
    rcases ih h with h | h
    · rcases mem_insertEntry h with rfl | h
      · exact .inr List.mem_cons_self
      · exact .inl h
    · exact .inr (List.mem_cons_of_mem _ h)

namespace SortedMap

variable [Std.TransOrd κ]

lemma entries_ofList (entries : List (κ × α)) :
    (ofList entries).entries = insertEntries [] entries := by
  have hfoldl (m : SortedMap κ α) :
      (entries.foldl (fun m e => m.insert e.1 e.2) m).entries =
        insertEntries m.entries entries := by
    induction entries generalizing m with
    | nil => rfl
    | cons e rest ih => exact ih (m.insert e.1 e.2)
  exact hfoldl empty

/-- A map is made of its own entries. -/
theorem ofList_entries (m : SortedMap κ α) : ofList m.entries = m :=
  ext ((entries_ofList _).trans (insertEntries_of_increasing m.increasing))

lemma mem_of_mem_entries_ofList {entries : List (κ × α)} {e : κ × α}
    (h : e ∈ (ofList entries).entries) : e ∈ entries := by
  rw [entries_ofList] at h
  exact (mem_insertEntries h).resolve_left List.not_mem_nil

lemma get?_insert [BEq κ] [LawfulBEq κ] [DecidableEq κ] [Std.LawfulEqOrd κ] (m : SortedMap κ α)
    (k k' : κ) (v : α) : (m.insert k v).get? k' = if k' = k then some v else m.get? k' := by
  change (insertEntry k v m.entries).lookup k' = if k' = k then some v else m.entries.lookup k'
  induction m.entries with
  | nil => exact lookup_cons_ite k' (k, v) []
  | cons e rest ih =>
    rw [insertEntry]
    split
    next => exact lookup_cons_ite k' (k, v) (e :: rest)
    next heq =>
      rw [lookup_cons_ite, lookup_cons_ite, Std.LawfulEqCmp.eq_of_compare heq]
      split <;> rfl
    next hgt =>
      have hne : k ≠ e.1 := by
        rintro rfl
        cases hgt.symm.trans Std.ReflOrd.compare_self
      rw [lookup_cons_ite, lookup_cons_ite, ih]
      by_cases hk : k' = e.1
      · rw [if_pos hk, if_pos hk, if_neg (hk ▸ hne.symm)]
      · rw [if_neg hk, if_neg hk]

/-! ### Keys -/

omit [Std.TransOrd κ] in
lemma contains_iff_mem_keys [BEq κ] [LawfulBEq κ] {m : SortedMap κ α} {k : κ} :
    m.contains k ↔ k ∈ m.keys := by
  rw [contains, get?, List.lookup_isSome_iff, keys, List.mem_map]
  constructor
  · rintro ⟨e, he, hk⟩
    exact ⟨e, he, (beq_iff_eq.mp hk).symm⟩
  · rintro ⟨e, he, rfl⟩
    exact ⟨e, he, beq_self_eq_true e.1⟩

omit [Std.TransOrd κ] in
lemma pairwise_keys (m : SortedMap κ α) : m.keys.Pairwise (compare · · = .lt) :=
  List.pairwise_map.mpr m.increasing

/-- The keys are those of all that the map contains, in their order. -/
theorem keys_eq_filter [BEq κ] [LawfulBEq κ] (m : SortedMap κ α) {all : List κ}
    (hall : all.Pairwise (compare · · = .lt)) (hkeys : ∀ k ∈ m.keys, k ∈ all) :
    m.keys = all.filter m.contains := by
  have hne {k k' : κ} (h : compare k k' = .lt) : k ≠ k' := by
    rintro rfl
    exact absurd (h.symm.trans Std.ReflOrd.compare_self) nofun
  have hall' : (all.filter m.contains).Pairwise (compare · · = .lt) := hall.filter _
  have hperm : m.keys.Perm (all.filter m.contains) := by
    rw [List.perm_ext_iff_of_nodup (m.pairwise_keys.imp hne) (hall'.imp hne)]
    intro k
    rw [List.mem_filter, contains_iff_mem_keys]
    exact ⟨fun hk => ⟨hkeys k hk, hk⟩, fun hk => hk.2⟩
  refine hperm.eq_of_pairwise (fun k k' _ _ h h' => ?_) m.pairwise_keys hall'
  rw [Std.OrientedCmp.gt_of_lt h] at h'
  cases h'

end SortedMap

end VmDescriptor
