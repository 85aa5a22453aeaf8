import Mathlib
import VmDescriptor.Proofs.Results
import VmDescriptor.Text.Blank

/-!
Words in any letter case.

A text is compared with a word of small letters by making all its letters small. This finds the
texts that have at each place the letter of the word or its capital.
-/

namespace VmDescriptor.Text

/-- The text is a word of small letters in some letter case: each of its characters is the letter
of the word or the capital of that. -/
def Casing (word s : String) : Prop :=
  List.Forall₂ (fun letter c => c = letter ∨ c = letter.toUpper) word.toList s.toList

instance (word s : String) : Decidable (Casing word s) :=
  inferInstanceAs (Decidable (List.Forall₂ _ _ _))

lemma Casing.forall_of_all {word s : String} (h : Casing word s) {P : Char → Bool}
    (hword : word.toList.all fun letter => P letter && P letter.toUpper) :
    ∀ c ∈ s.toList, P c := by
  intro c hc
  obtain ⟨letter, hletter, hcase⟩ := exists_mem_of_forall₂ h hc
  have hP := List.all_eq_true.mp hword letter hletter
  rw [Bool.and_eq_true] at hP
  rcases hcase with rfl | rfl
  · exact hP.1
  · exact hP.2

lemma toLower_eq_toLower_iff {c letter : Char} (h : letter.isLower) :
    c.toLower = letter.toLower ↔ c = letter ∨ c = letter.toUpper := by
  have hsmall : letter.toLower = letter :=
    Char.toLower_eq_of_not_isUpper (Char.not_isUpper_of_isLower h)
  constructor
  · intro heq
    by_cases hc : c.isUpper
    · right
      calc c
        _ = c.toUpper := (Char.toUpper_eq_of_not_isLower (Char.not_isLower_of_isUpper hc)).symm
        _ = c.toLower.toUpper := (Char.toUpper_toLower_eq_toUpper c).symm
        _ = letter.toUpper := by rw [heq, hsmall]
    · left
      rw [← Char.toLower_eq_of_not_isUpper hc, heq, hsmall]
  · rintro (rfl | rfl)
    · rfl
    · exact Char.toLower_toUpper_eq_toLower letter

lemma sameLetters_iff_casing {word s : String} (h : word.toList.all Char.isLower) :
    sameLetters s word ↔ Casing word s := by
  rw [List.all_eq_true] at h
  unfold sameLetters Casing
  rw [beq_iff_eq]
  generalize s.toList = cs
  generalize word.toList = letters at h
  induction letters generalizing cs with
  | nil => simp
  | cons letter letters ih =>
    rw [List.forall_mem_cons] at h
    cases cs with
    | nil => simp
    | cons c cs =>
      rw [List.map_cons, List.map_cons, List.cons.injEq, List.forall₂_cons, ih cs h.2,
        toLower_eq_toLower_iff h.1]

end VmDescriptor.Text
