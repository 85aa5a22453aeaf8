import Mathlib.Data.List.Shortlex
import VmDescriptor.Proofs.TargetBus

/-!
The letters of disk names as numerals.

Words of lower-case letters, the shorter ones first and those of one length in alphabetical order,
are in the order of the numbers that they stand for. So each word is the letters of one index, and
indices are in the order of their letters. The letters of an index of 32 bits are computed within
numbers of fixed width.
-/

namespace VmDescriptor.TargetBus

/-! ### Words -/

/-- The letters are lower-case, and there is one at least. -/
structure IsWord (cs : List Char) : Prop where
  ne_nil : cs ≠ []
  lower : ∀ c ∈ cs, 'a' ≤ c ∧ c ≤ 'z'

/-- The number that letters stand for when they follow those of another number. -/
def extended (n : Nat) (cs : List Char) : Nat :=
  cs.foldl (fun n c => 26 * n + (c.toNat - 96)) n

lemma numeral_eq_extended (cs : List Char) : numeral cs = extended 0 cs := rfl

lemma extended_cons (n : Nat) (c : Char) (cs : List Char) :
    extended n (c :: cs) = extended (26 * n + (c.toNat - 96)) cs := by
  rw [extended, extended, List.foldl_cons]

lemma extended_append (n : Nat) (cs ds : List Char) :
    extended n (cs ++ ds) = extended (extended n cs) ds := List.foldl_append

lemma le_extended (n : Nat) (cs : List Char) : n ≤ extended n cs := by
  induction cs generalizing n with
  | nil => exact Nat.le_refl n
  | cons c cs ih =>
    have hle := ih (26 * n + (c.toNat - 96))
    rw [extended_cons]
    omega

lemma toNat_of_lower {c : Char} (h : 'a' ≤ c ∧ c ≤ 'z') : 97 ≤ c.toNat ∧ c.toNat ≤ 122 := by
  rw [Char.le_def, Char.le_def, UInt32.le_iff_toNat_le, UInt32.le_iff_toNat_le] at h
  exact h

variable {cs ds : List Char}

/-- Letters that follow keep the order of the numbers before them. -/
lemma extended_lt_extended (hcs : ∀ c ∈ cs, 'a' ≤ c ∧ c ≤ 'z')
    (hds : ∀ d ∈ ds, 'a' ≤ d ∧ d ≤ 'z') (hlength : cs.length = ds.length) {m n : Nat}
    (h : m < n) : extended m cs < extended n ds := by
  induction cs generalizing ds m n with
  | nil =>
    obtain rfl := List.length_eq_zero_iff.mp hlength.symm
    exact h
  | cons c cs ih =>
    obtain ⟨d, ds, rfl⟩ := List.exists_cons_of_length_eq_add_one hlength.symm
    rw [List.forall_mem_cons] at hcs hds
    have hc := toNat_of_lower hcs.1
    have hd := toNat_of_lower hds.1
    rw [extended_cons, extended_cons]
    -- The letter of the lesser number adds 26 at most, and that of the greater one adds something.
    exact ih hcs.2 hds.2 (Nat.succ.inj hlength) (by omega)

/-- Words of one length in alphabetical order. -/
lemma extended_lt_of_lex (hcs : ∀ c ∈ cs, 'a' ≤ c ∧ c ≤ 'z')
    (hds : ∀ d ∈ ds, 'a' ≤ d ∧ d ≤ 'z') (hlength : cs.length = ds.length)
    (h : List.Lex (· < ·) cs ds) (n : Nat) : extended n cs < extended n ds := by
  induction h generalizing n with
  | nil => cases hlength
  | cons _ ih =>
    rw [List.forall_mem_cons] at hcs hds
    exact ih hcs.2 hds.2 (Nat.succ.inj hlength) _
  | @rel c _ d _ hlt =>
    rw [List.forall_mem_cons] at hcs hds
    have hc := toNat_of_lower hcs.1
    have hlt : c.toNat < d.toNat := UInt32.lt_iff_toNat_lt.mp (Char.lt_def.mp hlt)
    rw [extended_cons, extended_cons]
    exact extended_lt_extended hcs.2 hds.2 (Nat.succ.inj hlength) (by omega)

lemma numeral_pos (h : IsWord cs) : 0 < numeral cs := by
  obtain ⟨c, rest, rfl⟩ := List.exists_cons_of_ne_nil h.ne_nil
  have hc := toNat_of_lower (h.lower c List.mem_cons_self)
  have hle := le_extended (26 * 0 + (c.toNat - 96)) rest
  rw [numeral_eq_extended, extended_cons]
  omega

lemma numeral_lt_of_length_lt (hcs : ∀ c ∈ cs, 'a' ≤ c ∧ c ≤ 'z')
    (hds : ∀ d ∈ ds, 'a' ≤ d ∧ d ≤ 'z') (h : cs.length < ds.length) :
    numeral cs < numeral ds := by
  -- The longer word is as many letters as the shorter one has, after some others.
  obtain ⟨first, last, rfl, hlength⟩ : ∃ first last, ds = first ++ last ∧
      cs.length = last.length :=
    ⟨ds.take (ds.length - cs.length), ds.drop (ds.length - cs.length),
      (List.take_append_drop _ _).symm, by rw [List.length_drop]; omega⟩
  rw [List.forall_mem_append] at hds
  have hfirst : first ≠ [] := by
    rintro rfl
    rw [List.nil_append] at h
    omega
  rw [numeral_eq_extended, numeral_eq_extended, extended_append]
  exact extended_lt_extended hcs hds.2 hlength (numeral_pos ⟨hfirst, hds.1⟩)

/-- **Words are ordered by their numbers.** -/
theorem numeral_lt_iff (hcs : ∀ c ∈ cs, 'a' ≤ c ∧ c ≤ 'z') (hds : ∀ d ∈ ds, 'a' ≤ d ∧ d ≤ 'z') :
    numeral cs < numeral ds ↔ List.Shortlex (· < ·) cs ds := by
  have hlt {cs ds : List Char} (hcs : ∀ c ∈ cs, 'a' ≤ c ∧ c ≤ 'z')
      (hds : ∀ d ∈ ds, 'a' ≤ d ∧ d ≤ 'z') (h : List.Shortlex (· < ·) cs ds) :
      numeral cs < numeral ds := by
    rcases List.shortlex_def.mp h with h | ⟨hlength, h⟩
    · exact numeral_lt_of_length_lt hcs hds h
    · exact extended_lt_of_lex hcs hds hlength h 0
  refine ⟨fun h => ?_, hlt hcs hds⟩
  rcases trichotomous_of (List.Shortlex ((· < ·) : Char → Char → Prop)) cs ds with hcs' | rfl | hds'
  · exact hcs'
  · exact absurd h (Nat.lt_irrefl _)
  · exact absurd h (Nat.lt_asymm (hlt hds hcs hds'))

/-- Words of the same number are the same. -/
lemma eq_of_numeral_eq (hcs : ∀ c ∈ cs, 'a' ≤ c ∧ c ≤ 'z') (hds : ∀ d ∈ ds, 'a' ≤ d ∧ d ≤ 'z')
    (h : numeral cs = numeral ds) : cs = ds := by
  rcases trichotomous_of (List.Shortlex ((· < ·) : Char → Char → Prop)) cs ds with hlt | heq | hlt
  · exact absurd h (Nat.ne_of_lt ((numeral_lt_iff hcs hds).mpr hlt))
  · exact heq
  · exact absurd h (Nat.ne_of_gt ((numeral_lt_iff hds hcs).mpr hlt))

/-! ### Letters -/

lemma letter_mod (n : Nat) : letter (n % 26) = letter n := by
  rw [letter, letter, Nat.mod_mod]

lemma lower_letter (n : Nat) : 'a' ≤ letter n ∧ letter n ≤ 'z' := by
  have hletter : ∀ k < 26, 'a' ≤ letter k ∧ letter k ≤ 'z' := by decide
  rw [← letter_mod]
  exact hletter _ (Nat.mod_lt n (by decide))

lemma isWord_letters (index : Nat) : IsWord (letters index) := by
  induction index using letters.induct with
  | case1 index h =>
    rw [letters, if_pos h]
    exact ⟨List.cons_ne_nil _ _, List.forall_mem_singleton.mpr (lower_letter index)⟩
  | case2 index h ih =>
    rw [letters, if_neg h]
    exact ⟨by simp, List.forall_mem_append.mpr
      ⟨ih.lower, List.forall_mem_singleton.mpr (lower_letter index)⟩⟩

/-- The index whose letters a word is: numbers are counted from one. -/
def indexOf (cs : List Char) : Nat := numeral cs - 1

lemma indexOf_letters (index : Nat) : indexOf (letters index) = index := by
  rw [indexOf, numeral_letters, Nat.add_sub_cancel]

/-- A word is the letters of its index. -/
lemma letters_indexOf (h : IsWord cs) : letters (indexOf cs) = cs := by
  have hpos := numeral_pos h
  refine eq_of_numeral_eq (isWord_letters _).lower h.lower ?_
  rw [numeral_letters, indexOf]
  omega

/-- Letters are in the order of the indices. -/
lemma shortlex_letters_iff (i j : Nat) :
    List.Shortlex (· < ·) (letters i) (letters j) ↔ i < j := by
  rw [← numeral_lt_iff (isWord_letters i).lower (isWord_letters j).lower, numeral_letters,
    numeral_letters]
  omega

/-- The words whose index has 32 bits are the letters of such indices. -/
lemma exists_letters_iff : (∃ index : UInt32, letters index.toNat = cs) ↔
    IsWord cs ∧ indexOf cs < UInt32.size := by
  constructor
  · rintro ⟨index, rfl⟩
    refine ⟨isWord_letters _, ?_⟩
    rw [indexOf_letters]
    exact index.toNat_lt
  · rintro ⟨hword, hlt⟩
    refine ⟨.ofNat (indexOf cs), ?_⟩
    rw [UInt32.toNat_ofNat_of_lt' hlt, letters_indexOf hword]

/-! ### Numbers of fixed width -/

/-- The sum of two bytes, if it is a byte. -/
def sum? (a b : UInt8) : Option UInt8 :=
  if a.toNat + b.toNat < UInt8.size then some (a + b) else none

/-- The number as a byte, if it is one. -/
def byte? (n : UInt32) : Option UInt8 :=
  if n.toNat < UInt8.size then some n.toUInt8 else none

/-- The difference of two numbers, if it is not negative. -/
def difference? (a b : UInt32) : Option UInt32 :=
  if b ≤ a then some (a - b) else none

/-- The last letter of an index, computed in numbers of fixed width. -/
def lastLetter? (index : UInt32) : Option Char := do
  let place ← byte? (index % 26)
  return .ofUInt8 (← sum? 97 place)

lemma toNat_lt_of_difference? {index rest : UInt32} (h : difference? (index / 26) 1 = some rest) :
    rest.toNat < index.toNat := by
  obtain ⟨hle, heq⟩ := Option.ite_none_right_eq_some.mp h
  cases heq
  have hdiv : (index / 26).toNat = index.toNat / 26 := UInt32.toNat_div _ _
  have hone : 1 ≤ (index / 26).toNat := UInt32.le_iff_toNat_le.mp hle
  have hsub : (index / 26 - 1).toNat = (index / 26).toNat - 1 := UInt32.toNat_sub_of_le _ _ hle
  omega

/-- The letters of an index, computed in numbers of fixed width. There are none if a number does
not fit its width. -/
def computed? (index : UInt32) : Option (List Char) :=
  match lastLetter? index with
  | none => none
  | some last =>
    if index < 26 then some [last]
    else match _h : difference? (index / 26) 1 with
      | none => none
      | some rest => (computed? rest).map (· ++ [last])
termination_by index.toNat
decreasing_by exact toNat_lt_of_difference? ‹_›

/-- There are 26 last letters. -/
lemma lastLetter?_eq (index : UInt32) : lastLetter? index = some (letter index.toNat) := by
  have hplaces : ∀ k < 26, lastLetter? (.ofNat k) = some (letter k) := by decide
  have hlt : index.toNat % 26 < UInt32.size :=
    Nat.lt_of_le_of_lt (Nat.mod_le _ _) index.toNat_lt
  have hmod : index % 26 = .ofNat (index.toNat % 26) % 26 := by
    rw [← UInt32.toNat_inj, UInt32.toNat_mod, UInt32.toNat_mod, UInt32.toNat_ofNat_of_lt' hlt]
    exact (Nat.mod_mod _ _).symm
  calc lastLetter? index
    _ = lastLetter? (.ofNat (index.toNat % 26)) := by rw [lastLetter?, lastLetter?, hmod]
    _ = some (letter (index.toNat % 26)) := hplaces _ (Nat.mod_lt _ (by decide))
    _ = some (letter index.toNat) := by rw [letter_mod]

lemma difference?_eq {index : UInt32} (h : ¬ index < 26) :
    ∃ before, difference? (index / 26) 1 = some before ∧
      before.toNat = index.toNat / 26 - 1 := by
  have hle : 26 ≤ index.toNat := by simpa [UInt32.lt_iff_toNat_lt] using h
  have hdiv : (index / 26).toNat = index.toNat / 26 := UInt32.toNat_div _ _
  have hone : 1 ≤ index / 26 := by
    rw [UInt32.le_iff_toNat_le, hdiv]
    change 1 ≤ _
    omega
  exact ⟨_, if_pos hone, by rw [UInt32.toNat_sub_of_le _ _ hone, hdiv]; rfl⟩

/-- Every number fits its width. -/
lemma computed?_eq (index : UInt32) : computed? index = some (letters index.toNat) := by
  induction hn : index.toNat using Nat.strong_induction_on generalizing index with
  | _ n ih =>
    have hlt : index < 26 ↔ n < 26 := by rw [UInt32.lt_iff_toNat_lt, hn]; rfl
    rw [computed?, lastLetter?_eq, hn, letters]
    dsimp only
    by_cases h : n < 26
    · rw [if_pos (hlt.mpr h), if_pos h]
    · obtain ⟨before, hbefore, htoNat⟩ := difference?_eq (mt hlt.mp h)
      rw [if_neg (mt hlt.mp h), if_neg h]
      split
      next hnone => cases hbefore.symm.trans hnone
      next rest hrest =>
        cases hbefore.symm.trans hrest
        have hrec := ih (n / 26 - 1) (by omega) before (by rw [htoNat, hn])
        rw [hrec]
        rfl

/-- **Letters of disk names**: letters are read back as their index, names differ as stems or
indices do, letters are in the order of the indices, every word whose index has 32 bits is the
letters of such an index, and the letters can be computed in numbers of fixed width. -/
theorem letters_readBack_ordered_and_computed :
    (∀ index : UInt32, indexOf (letters index.toNat) = index.toNat ∧
      computed? index = some (letters index.toNat)) ∧
    (∀ (bus bus' : TargetBus) (i j : UInt32),
      bus.diskName i.toNat = bus'.diskName j.toNat ↔ bus.stem = bus'.stem ∧ i = j) ∧
    (∀ i j : UInt32,
      List.Shortlex (· < ·) (letters i.toNat) (letters j.toNat) ↔ i < j) ∧
    ∀ cs, (∃ index : UInt32, letters index.toNat = cs) ↔
      IsWord cs ∧ indexOf cs < UInt32.size :=
  ⟨fun index => ⟨indexOf_letters _, computed?_eq index⟩,
    fun _ _ _ _ => by rw [diskName_inj, UInt32.toNat_inj],
    fun i j => (shortlex_letters_iff _ _).trans UInt32.lt_iff_toNat_lt.symm,
    fun _ => exists_letters_iff⟩

end VmDescriptor.TargetBus
