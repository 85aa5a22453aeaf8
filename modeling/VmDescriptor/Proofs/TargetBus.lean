import Mathlib.Tactic.Lemma
import VmDescriptor.TargetBus

/-!
Disk names.

Letters are read back as a bijective numeral in base 26, so an index is determined by its
letters, and a disk name by its stem and its index.
-/

namespace VmDescriptor.TargetBus

/-- The number that letters stand for, with `a` for one. -/
def numeral (letters : List Char) : Nat :=
  letters.foldl (fun n c => 26 * n + (c.toNat - 96)) 0

lemma numeral_concat (letters : List Char) (c : Char) :
    numeral (letters ++ [c]) = 26 * numeral letters + (c.toNat - 96) := by
  simp [numeral]

lemma toNat_letter (n : Nat) : (letter n).toNat = 97 + n % 26 := by
  have hletter : ∀ k < 26, (Char.ofNat (97 + k)).toNat = 97 + k := by decide
  exact hletter (n % 26) (Nat.mod_lt n (by decide))

/-- **Letters are bijective numerals** of the indices counted from one. -/
theorem numeral_letters (index : Nat) : numeral (letters index) = index + 1 := by
  induction index using letters.induct with
  | case1 index h =>
    rw [letters, if_pos h]
    have := numeral_concat [] (letter index)
    simp only [List.nil_append, toNat_letter] at this
    rw [this, numeral, List.foldl_nil]
    omega
  | case2 index h ih =>
    rw [letters, if_neg h, numeral_concat, ih, toNat_letter]
    omega

lemma letters_injective {i j : Nat} (h : letters i = letters j) : i = j := by
  have := numeral_letters i
  rw [h, numeral_letters] at this
  omega

lemma length_stem (bus : TargetBus) : bus.stem.toList.length = 2 := by
  cases bus <;> rfl

/-- A name tells its stem and its index, and nothing else of its bus. -/
theorem diskName_inj {bus bus' : TargetBus} {i j : Nat} :
    bus.diskName i = bus'.diskName j ↔ bus.stem = bus'.stem ∧ i = j := by
  constructor
  · intro h
    have h := congrArg String.toList h
    simp only [diskName, String.toList_append, String.toList_ofList] at h
    obtain ⟨hstem, hletters⟩ := List.append_inj h (by rw [length_stem, length_stem])
    exact ⟨String.toList_inj.mp hstem, letters_injective hletters⟩
  · rintro ⟨hstem, rfl⟩
    rw [diskName, diskName, hstem]

end VmDescriptor.TargetBus
