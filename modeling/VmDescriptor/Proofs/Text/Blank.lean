import Mathlib.Data.List.DropRight
import VmDescriptor.Text.Blank

/-!
Trimmed texts and texts with separators.

A text is trimmed if it has no blanks at its ends. Cutting at a character and splitting at a
character undo putting it between texts that do not contain it.
-/

namespace VmDescriptor.Text

/-! ### Trimming -/

lemma trim_eq (cs : List Char) : trim cs = (cs.dropWhile isBlank).rdropWhile isBlank := rfl

lemma trim_cons_of_isBlank {c : Char} (h : isBlank c) (cs : List Char) :
    trim (c :: cs) = trim cs := by
  rw [trim, trim, List.dropWhile_cons_of_pos h]

/-- A text is trimmed if neither its first character nor its last one is blank. -/
lemma trim_eq_self_iff {cs : List Char} :
    trim cs = cs ↔ ∀ h : cs ≠ [], ¬isBlank (cs.head h) ∧ ¬isBlank (cs.getLast h) := by
  constructor
  · intro htrim h
    have hsuffix : cs.dropWhile isBlank <:+ cs := List.dropWhile_suffix _
    have hprefix : trim cs <+: cs.dropWhile isBlank := List.rdropWhile_prefix _ _
    have hdrop : cs.dropWhile isBlank = cs := by
      have hle := hprefix.length_le
      rw [htrim] at hle
      exact hsuffix.eq_of_length_le hle
    have hhead := List.dropWhile_eq_self_iff.mp hdrop (List.length_pos_iff.mpr h)
    rw [trim_eq, hdrop] at htrim
    exact ⟨by rwa [List.head_eq_getElem], List.rdropWhile_eq_self_iff.mp htrim h⟩
  · intro h
    have hdrop : cs.dropWhile isBlank = cs := List.dropWhile_eq_self_iff.mpr fun hpos => by
      rw [← List.head_eq_getElem (List.length_pos_iff.mp hpos)]
      exact (h (List.length_pos_iff.mp hpos)).1
    rw [trim_eq, hdrop]
    exact List.rdropWhile_eq_self_iff.mpr fun hne => (h hne).2

/-- A trimmed text is trimmed. -/
theorem trim_trim (cs : List Char) : trim (trim cs) = trim cs := by
  rw [trim_eq_self_iff]
  intro h
  have hprefix : trim cs <+: cs.dropWhile isBlank := List.rdropWhile_prefix _ _
  have hne : cs.dropWhile isBlank ≠ [] := fun hnil => h (List.prefix_nil.mp (hnil ▸ hprefix))
  have hhead : (trim cs).head h = (cs.dropWhile isBlank).head hne := by
    obtain ⟨blanks, happend⟩ := hprefix
    simp only [← happend, List.head_append_of_ne_nil h]
  refine ⟨?_, List.rdropWhile_last_not _ _ h⟩
  rw [hhead, List.head_dropWhile_not isBlank hne]
  exact Bool.false_ne_true

/-- Nothing is left of a text just when it is blank. -/
lemma trim_eq_nil_iff {cs : List Char} : trim cs = [] ↔ ∀ c ∈ cs, isBlank c := by
  rw [trim_eq, List.rdropWhile_eq_nil_iff]
  constructor
  · intro h
    rw [← List.takeWhile_append_dropWhile (p := isBlank) (l := cs), List.forall_mem_append]
    exact ⟨fun _ => List.mem_takeWhile_imp, h⟩
  · exact fun h c hc => h c ((List.dropWhile_sublist _).mem hc)

lemma mem_of_mem_trim {cs : List Char} {c : Char} (h : c ∈ trim cs) : c ∈ cs :=
  (List.dropWhile_sublist _).mem ((List.rdropWhile_prefix _ _).mem h)

/-- Only blanks are removed. -/
lemma mem_trim {cs : List Char} {c : Char} (h : c ∈ cs) (hc : ¬ isBlank c) : c ∈ trim cs := by
  have hdrop {cs : List Char} (h : c ∈ cs) : c ∈ cs.dropWhile isBlank := by
    rw [← List.takeWhile_append_dropWhile (p := isBlank) (l := cs), List.mem_append] at h
    exact h.resolve_left fun htake => hc (List.mem_takeWhile_imp htake)
  exact List.mem_reverse.mpr (hdrop (List.mem_reverse.mpr (hdrop h)))

lemma trim_of_forall_not_isBlank {cs : List Char} (h : ∀ c ∈ cs, ¬ isBlank c) : trim cs = cs :=
  trim_eq_self_iff.mpr fun hne => ⟨h _ (List.head_mem hne), h _ (List.getLast_mem hne)⟩

/-- The text has blanks and nothing else around what is inside. -/
def Padded (inside cs : List Char) : Prop :=
  ∃ before after, (∀ c ∈ before, isBlank c) ∧ (∀ c ∈ after, isBlank c) ∧
    cs = before ++ inside ++ after

lemma padded_self (cs : List Char) : Padded cs cs :=
  ⟨[], [], List.forall_mem_nil _, List.forall_mem_nil _, (List.append_nil cs).symm⟩

/-- Blanks around a text do not matter. -/
lemma trim_of_padded {inside cs : List Char} (h : Padded inside cs) : trim cs = trim inside := by
  obtain ⟨before, after, hbefore, hafter, rfl⟩ := h
  rw [trim_eq, trim_eq, List.append_assoc, List.dropWhile_append_of_pos hbefore,
    List.dropWhile_append]
  split
  next hblank =>
    rw [List.isEmpty_iff.mp hblank, List.dropWhile_eq_nil_iff.mpr hafter]
  next =>
    have hreverse : ∀ c ∈ after.reverse, isBlank c := fun c hc => hafter c (List.mem_reverse.mp hc)
    rw [List.rdropWhile, List.rdropWhile, List.reverse_append,
      List.dropWhile_append_of_pos hreverse]

/-- What is not blank is inside. -/
lemma Padded.mem_inside {inside cs : List Char} (h : Padded inside cs) {c : Char} (hc : c ∈ cs)
    (hblank : ¬ isBlank c) : c ∈ inside := by
  obtain ⟨before, after, hbefore, hafter, rfl⟩ := h
  simp only [List.mem_append] at hc
  rcases hc with (hc | hc) | hc
  · exact absurd (hbefore c hc) hblank
  · exact hc
  · exact absurd (hafter c hc) hblank

/-- What stands between two trimmed texts does not matter. -/
lemma trim_append_append {a b : List Char} (mid : List Char) (ha : trim a = a) (hb : trim b = b)
    (hane : a ≠ []) (hbne : b ≠ []) : trim (a ++ mid ++ b) = a ++ mid ++ b := by
  rw [trim_eq_self_iff]
  intro h
  have hfirst := (trim_eq_self_iff.mp ha hane).1
  have hlast := (trim_eq_self_iff.mp hb hbne).2
  rw [List.getLast_append_of_ne_nil _ hbne]
  simp only [List.append_assoc, List.head_append_of_ne_nil hane]
  exact ⟨hfirst, hlast⟩

/-! ### Separators -/

lemma cut_append {sep : Char} {before : List Char} (h : sep ∉ before) (after : List Char) :
    cut sep (before ++ sep :: after) = some (before, after) := by
  have hne : ∀ c ∈ before, (c != sep) = true := fun c hc => by
    rw [bne_iff_ne]
    rintro rfl
    exact h hc
  have hdrop : (before ++ sep :: after).dropWhile (· != sep) = sep :: after := by
    rw [List.dropWhile_append_of_pos hne]
    simp
  have htake : (before ++ sep :: after).takeWhile (· != sep) = before := by
    rw [List.takeWhile_append_of_pos hne]
    simp
  rw [cut, hdrop, htake]

lemma cut_cons_of_ne {c sep : Char} (h : c ≠ sep) (cs : List Char) :
    cut sep (c :: cs) = (cut sep cs).map fun p => (c :: p.1, p.2) := by
  have hc : (c != sep) = true := bne_iff_ne.mpr h
  simp only [cut, List.dropWhile_cons, List.takeWhile_cons, hc, if_true]
  cases cs.dropWhile (· != sep) <;> rfl

lemma eq_append_of_cut {sep : Char} {cs before after : List Char}
    (h : cut sep cs = some (before, after)) : cs = before ++ sep :: after ∧ sep ∉ before := by
  unfold cut at h
  split at h
  next => cases h
  next c rest hdrop =>
    cases h
    have hne : cs.dropWhile (· != sep) ≠ [] := by simp [hdrop]
    have hc : sep = c := by
      have hhead := List.head_dropWhile_not (· != sep) hne
      simp only [hdrop, List.head_cons, bne_eq_false_iff_eq] at hhead
      exact hhead.symm
    refine ⟨?_, fun hmem => ?_⟩
    · calc cs
        _ = cs.takeWhile (· != sep) ++ cs.dropWhile (· != sep) :=
          List.takeWhile_append_dropWhile.symm
        _ = cs.takeWhile (· != sep) ++ sep :: after := by rw [hdrop, hc]
    · simpa using List.mem_takeWhile_imp hmem

lemma cut_eq_none_iff {sep : Char} {cs : List Char} : cut sep cs = none ↔ sep ∉ cs := by
  constructor
  · intro h hmem
    obtain ⟨before, after, rfl, hbefore⟩ := List.eq_append_cons_of_mem hmem
    cases (cut_append hbefore after).symm.trans h
  · intro h
    cases hcut : cut sep cs with
    | none => rfl
    | some p =>
      obtain ⟨rfl, -⟩ := eq_append_of_cut hcut
      exact absurd (List.mem_append_right _ List.mem_cons_self) h

lemma notMem_of_mem_splitOn {sep : Char} {cs : List Char} :
    ∀ piece ∈ cs.splitOn sep, sep ∉ piece := by
  induction cs with
  | nil => simp
  | cons c rest ih =>
    rw [List.splitOn_cons_eq_if_modifyHead]
    split
    next => simpa using ih
    next hc =>
      cases hrest : rest.splitOn sep with
      | nil => simp
      | cons piece pieces =>
        rw [hrest, List.forall_mem_cons] at ih
        rw [List.modifyHead_cons, List.forall_mem_cons]
        refine ⟨fun hmem => ?_, ih.2⟩
        rcases List.mem_cons.mp hmem with rfl | hmem
        · exact hc (beq_self_eq_true _)
        · exact ih.1 hmem

end VmDescriptor.Text
