import Mathlib.Algebra.Group.Nat.Defs
import Mathlib.Data.List.Basic
import VmDescriptor.Text.Blank
import VmDescriptor.Text.Numeral

/-!
Numerals are read back from their digits.
-/

namespace VmDescriptor.Text

/-! ### Decimal numerals -/

lemma toNat_of_isDigit {c : Char} (h : c.isDigit) : 48 ≤ c.toNat ∧ c.toNat ≤ 57 :=
  Char.isDigit_iff_toNat.mp h

lemma not_isBlank_of_isDigit {c : Char} (h : c.isDigit) : ¬ isBlank c := by
  have hc := toNat_of_isDigit h
  simp only [isBlank, Bool.or_eq_true, Bool.and_eq_true, decide_eq_true_iff, beq_iff_eq]
  omega

lemma toLower_of_isDigit {c : Char} (h : c.isDigit) : c.toLower = c := by
  have hc := toNat_of_isDigit h
  refine dif_neg fun hupper => ?_
  have hle : 65 ≤ c.toNat := UInt32.le_iff_toNat_le.mp hupper.1
  omega

lemma digits?_toDigits (n : Nat) : digits? (Nat.toDigits 10 n) = some n := by
  have hdigits : (Nat.toDigits 10 n).all Char.isDigit :=
    List.all_eq_true.mpr fun _ hc => Nat.isDigit_of_mem_toDigits (by decide) (by decide) hc
  have hne : (Nat.toDigits 10 n).isEmpty = false := by simp
  simp [digits?, hdigits, hne, Nat.ofDigitChars_ten_toDigits]

lemma unsigned?_toDigits (bound n : Nat) :
    unsigned? bound (Nat.toDigits 10 n) = if n < bound then some n else none := by
  have hplus (rest : List Char) : Nat.toDigits 10 n ≠ '+' :: rest := fun heq => by
    have hdigit : Char.isDigit '+' := Nat.isDigit_of_mem_toDigits (b := 10) (n := n)
      (by decide) (by decide) (heq ▸ List.mem_cons_self)
    simp at hdigit
  unfold unsigned?
  split
  next rest heq => exact absurd heq (hplus rest)
  next => simp [digits?_toDigits, Option.filter]

/-- The text is a numeral of the number: one or more digits, which may begin with zeros, after one
plus sign at the most. -/
def IsNumeral (cs : List Char) (n : Nat) : Prop :=
  ∃ digits, (cs = digits ∨ cs = '+' :: digits) ∧ digits ≠ [] ∧ (∀ c ∈ digits, c.isDigit) ∧
    Nat.ofDigitChars 10 digits 0 = n

lemma digits?_eq_some_iff {cs : List Char} {n : Nat} :
    digits? cs = some n ↔ cs ≠ [] ∧ (∀ c ∈ cs, c.isDigit) ∧ Nat.ofDigitChars 10 cs 0 = n := by
  simp [digits?, List.all_eq_false, and_assoc]

/-- The numerals of numbers below a bound are read, and nothing else is. -/
lemma unsigned?_eq_some_iff {bound : Nat} {cs : List Char} {n : Nat} :
    unsigned? bound cs = some n ↔ IsNumeral cs n ∧ n < bound := by
  have hdigits {digits : List Char} : (digits? digits).filter (· < bound) = some n ↔
      (digits ≠ [] ∧ (∀ c ∈ digits, c.isDigit) ∧ Nat.ofDigitChars 10 digits 0 = n) ∧
        n < bound := by
    rw [Option.filter_eq_some_iff, digits?_eq_some_iff, decide_eq_true_iff]
  unfold unsigned?
  split
  next rest =>
    rw [hdigits]
    refine and_congr_left fun _ => ⟨fun h => ⟨rest, .inr rfl, h⟩, ?_⟩
    rintro ⟨digits, hcs | hcs, h⟩
    · -- A plus sign is no digit.
      have hplus := h.2.1 '+' (hcs ▸ List.mem_cons_self)
      simp at hplus
    · cases hcs
      exact h
  next hplus =>
    rw [hdigits]
    refine and_congr_left fun _ => ⟨fun h => ⟨cs, .inl rfl, h⟩, ?_⟩
    rintro ⟨digits, rfl | hcs, h⟩
    · exact h
    · exact absurd hcs (hplus digits)

/-- A numeral has digits, and may have a plus sign. -/
lemma unsigned?_eq_none_of_mem {bound : Nat} {cs : List Char} {c : Char} (hc : c ∈ cs)
    (hdigit : ¬ c.isDigit) (hplus : c ≠ '+') : unsigned? bound cs = none := by
  rw [Option.eq_none_iff_forall_not_mem]
  intro n hn
  obtain ⟨⟨digits, hcs, -, hdigits, -⟩, -⟩ := unsigned?_eq_some_iff.mp hn
  have hmem : c ∈ digits := by
    rcases hcs with rfl | rfl
    · exact hc
    · exact (List.mem_cons.mp hc).resolve_left hplus
  exact hdigit (hdigits c hmem)

/-- Numbers with the same digits are the same. -/
lemma decimal_injective {m n : Nat} (h : decimal m = decimal n) : m = n := by
  have h := String.ofList_injective h
  rw [← Nat.ofDigitChars_ten_toDigits (n := m), h, Nat.ofDigitChars_ten_toDigits]

/-! ### Hexadecimal numerals -/

lemma hexDigit?_digitChar : ∀ d < 16, hexDigit? (Nat.digitChar d) = some d := by decide

lemma length_hexDigits (width n : Nat) : (hexDigits width n).length = width := by
  induction width generalizing n with
  | zero => rfl
  | succ width ih => rw [hexDigits, List.length_append, ih, List.length_singleton]

lemma exists_of_mem_hexDigits {width n : Nat} {c : Char} (hc : c ∈ hexDigits width n) :
    ∃ d < 16, c = Nat.digitChar d := by
  induction width generalizing n with
  | zero => cases hc
  | succ width ih =>
    rcases List.mem_append.mp hc with hc | hc
    · exact ih hc
    · exact ⟨n % 16, Nat.mod_lt n (by decide), List.mem_singleton.mp hc⟩

lemma hex?_concat (cs : List Char) (c : Char) :
    hex? (cs ++ [c]) = (hex? cs).bind fun n => (hexDigit? c).map (n * 16 + ·) := by
  simp [hex?, List.foldlM_append]

/-- The digits of a number stand for what is left of it when higher digits are dropped. -/
lemma hex?_hexDigits (width n : Nat) : hex? (hexDigits width n) = some (n % 16 ^ width) := by
  induction width generalizing n with
  | zero => simp [hexDigits, hex?, Nat.mod_one]
  | succ width ih =>
    rw [hexDigits, hex?_concat, ih, hexDigit?_digitChar _ (Nat.mod_lt n (by decide)),
      Nat.pow_succ', Nat.mod_mul]
    simp only [Option.bind_some, Option.map_some, Option.some.injEq]
    omega

end VmDescriptor.Text
