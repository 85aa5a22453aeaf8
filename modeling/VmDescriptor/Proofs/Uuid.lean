import VmDescriptor.Proofs.Codec.Laws
import VmDescriptor.Proofs.Text.Numeral

/-!
Identifiers are read back from their written form.
-/

namespace VmDescriptor

open Text

namespace Uuid

lemma ofGroups?_hyphenated {a b c d e : List Char} (ha : a.length = 8) (hb : b.length = 4)
    (hc : c.length = 4) (hd : d.length = 4) (he : e.length = 12) :
    ofGroups? (a ++ '-' :: b ++ '-' :: c ++ '-' :: d ++ '-' :: e) =
      ofDigits? (a ++ b ++ c ++ d ++ e) := by
  simp [ofGroups?, ha, hb, hc, hd, he, List.drop_append, List.drop_of_length_le]

lemma ofGroups?_chars (id : Uuid) : ofGroups? id.chars = some id := by
  have hlength := length_hexDigits 32 id.toNat
  have hdigits : (hexDigits 32 id.toNat).take 8 ++ ((hexDigits 32 id.toNat).drop 8).take 4 ++
      ((hexDigits 32 id.toNat).drop 12).take 4 ++ ((hexDigits 32 id.toNat).drop 16).take 4 ++
      (hexDigits 32 id.toNat).drop 20 = hexDigits 32 id.toNat := by
    have hgroup (n : Nat) : (hexDigits 32 id.toNat).take n ++
        ((hexDigits 32 id.toNat).drop n).take 4 = (hexDigits 32 id.toNat).take (n + 4) :=
      List.take_add.symm
    rw [hgroup, hgroup, hgroup, List.take_append_drop]
  have hbits : id.toNat % 16 ^ 32 = id.toNat := Nat.mod_eq_of_lt id.bits.isLt
  rw [chars, ofGroups?_hyphenated (by simp [hlength]) (by simp [hlength]) (by simp [hlength])
    (by simp [hlength]) (by simp [hlength]), hdigits, ofDigits?, if_pos hlength, hex?_hexDigits,
    hbits]
  simp [toNat]

lemma head_chars (id : Uuid) : ∃ d < 16, ∃ rest, id.chars = Nat.digitChar d :: rest := by
  cases hdigits : hexDigits 32 id.toNat with
  | nil =>
    have hlength := length_hexDigits 32 id.toNat
    simp [hdigits] at hlength
  | cons c rest =>
    obtain ⟨d, hd, rfl⟩ := exists_of_mem_hexDigits (hdigits ▸ List.mem_cons_self)
    refine ⟨d, hd, ?_⟩
    rw [chars, hdigits]
    exact ⟨_, rfl⟩

lemma length_chars (id : Uuid) : id.chars.length = 36 := by
  simp [chars, length_hexDigits]

/-- **An identifier is read back from its written form**. -/
theorem parse?_text (id : Uuid) : parse? id.text = some id := by
  -- The form begins with a digit, so it is neither in braces nor after a prefix.
  have hdigit : ∀ d < 16, Nat.digitChar d ≠ '\x7b' ∧ (Nat.digitChar d).toLower ≠ 'u' := by decide
  obtain ⟨d, hd, rest, hchars⟩ := id.head_chars
  obtain ⟨hbrace, hurn⟩ := hdigit d hd
  have hurn : (id.chars.take urn.length).map Char.toLower ≠ urn := by
    rw [hchars]
    exact fun h => hurn (List.cons.inj h).1
  have hlength : id.chars.length ≠ 32 := by rw [length_chars]; decide
  rw [parse?, text, String.toList_ofList]
  split
  next rest' h => exact absurd (List.cons.inj (hchars.symm.trans h)).1 hbrace
  next => rw [if_neg hurn, if_neg hlength, ofGroups?_chars]

end Uuid

namespace Codec

variable {α : Type} {c : Codec α}

lemma parseUuid_text (id : Uuid) : parseUuid id.text = .ok id := by
  rw [parseUuid, Uuid.parse?_text]

instance : uuid.Faithful := .ofText parseUuid_text

instance [c.Faithful] : (byUuid c).Faithful := .map parseUuid_text

end Codec

end VmDescriptor
