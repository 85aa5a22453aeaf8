import VmDescriptor.EngineConfig
import VmDescriptor.Proofs.Codec.Texts

/-!
Versions, their texts and their order.

A text is read as a version just when it is two numerals around its first point. Versions are
ordered by their numbers and not by their texts, so what is enabled from one version on is enabled
for all later ones.
-/

namespace VmDescriptor

open Text

namespace Version

/-! ### Texts -/

/-- The text denotes a version: it is numerals of the two numbers around its first point. -/
def IsDenotedBy (v : Version) (cs : List Char) : Prop :=
  ∃ major minor, cs = major ++ '.' :: minor ∧ '.' ∉ major ∧
    IsNumeral major v.major.toNat ∧ IsNumeral minor v.minor.toNat

lemma part?_eq_some_iff {cs : List Char} {n : UInt32} :
    part? cs = some n ↔ IsNumeral cs n.toNat := by
  rw [part?, Option.map_eq_some_iff]
  constructor
  · rintro ⟨m, hm, rfl⟩
    obtain ⟨hnumeral, hlt⟩ := unsigned?_eq_some_iff.mp hm
    rwa [UInt32.toNat_ofNat_of_lt' hlt]
  · exact fun h => ⟨n.toNat, unsigned?_eq_some_iff.mpr ⟨h, n.toNat_lt⟩, UInt32.ofNat_toNat⟩

/-- A text is read as the version that it denotes. -/
theorem parse_eq_ok_iff {s : String} {v : Version} : parse s = .ok v ↔ v.IsDenotedBy s.toList := by
  unfold parse IsDenotedBy
  constructor
  · intro h
    split at h
    next major minor hcut =>
      obtain ⟨hsplit, hpoint⟩ := eq_append_of_cut hcut
      split at h
      next m n hmajor hminor =>
        cases h
        exact ⟨major, minor, hsplit, hpoint, part?_eq_some_iff.mp hmajor,
          part?_eq_some_iff.mp hminor⟩
      next => cases h
    next => cases h
  · rintro ⟨major, minor, hsplit, hpoint, hmajor, hminor⟩
    rw [hsplit, cut_append hpoint]
    dsimp only
    rw [part?_eq_some_iff.mpr hmajor, part?_eq_some_iff.mpr hminor]

/-- The error names the whole text. -/
lemma eq_version_of_parse {s : String} {e : Malformed} (h : parse s = .error e) :
    e = .version s := by
  unfold parse at h
  split at h
  · split at h
    · cases h
    · exact (Except.error.inj h).symm
  · exact (Except.error.inj h).symm

theorem parse_eq_error_iff {s : String} {e : Malformed} :
    parse s = .error e ↔ (¬ ∃ v : Version, v.IsDenotedBy s.toList) ∧ e = .version s := by
  simp only [← parse_eq_ok_iff]
  cases hparse : parse s with
  | ok v => simp
  | error e' =>
    obtain rfl := eq_version_of_parse hparse
    simp [eq_comm]

/-! ### Order -/

/-- The version comes before another one: its first number is less, or the first numbers are the
same and its second number is less. -/
def Precedes (v w : Version) : Prop :=
  v.major < w.major ∨ v.major = w.major ∧ v.minor < w.minor

lemma compare_eq (v w : Version) :
    compare v w =
      (compare v.major.toNat w.major.toNat).then (compare v.minor.toNat w.minor.toNat) := rfl

variable {v w : Version}

lemma compare_eq_lt_iff : compare v w = .lt ↔ v.Precedes w := by
  rw [compare_eq, Ordering.then_eq_lt, Nat.compare_eq_lt, Nat.compare_eq_eq, Nat.compare_eq_lt,
    UInt32.toNat_inj]
  rfl

lemma compare_eq_gt_iff : compare v w = .gt ↔ w.Precedes v := by
  rw [compare_eq, Ordering.then_eq_gt, Nat.compare_eq_gt, Nat.compare_eq_eq, Nat.compare_eq_gt,
    UInt32.toNat_inj, eq_comm]
  rfl

lemma compare_eq_eq_iff : compare v w = .eq ↔ v = w := by
  rw [compare_eq, Ordering.then_eq_eq, Nat.compare_eq_eq, Nat.compare_eq_eq, UInt32.toNat_inj,
    UInt32.toNat_inj]
  cases v
  cases w
  simp

lemma atLeast_iff : v.atLeast w ↔ w.Precedes v ∨ v = w := by
  rw [← compare_eq_gt_iff, ← compare_eq_eq_iff, atLeast]
  cases compare v w <;> decide

lemma Precedes.trans {u : Version} (h : u.Precedes v) (h' : v.Precedes w) : u.Precedes w := by
  unfold Precedes at *
  rcases h with h | ⟨heq, h⟩
  · rcases h' with h' | ⟨heq', -⟩
    · exact .inl (UInt32.lt_trans h h')
    · exact .inl (heq' ▸ h)
  · rcases h' with h' | ⟨heq', h'⟩
    · exact .inl (heq ▸ h')
    · exact .inr ⟨heq.trans heq', UInt32.lt_trans h h'⟩

end Version

/-! ### Gates -/

/-- What is enabled for a version is enabled for all later ones. -/
theorem EngineConfig.hypervEnabled_mono {config : EngineConfig} {os : UInt32} {v w : Version}
    (hle : v.Precedes w ∨ v = w) (h : config.hypervEnabled os v) : config.hypervEnabled os w := by
  unfold hypervEnabled at *
  rw [Option.any_eq_true] at *
  obtain ⟨info, hinfo, h⟩ := h
  rw [Bool.and_eq_true, Option.all_eq_true] at h
  refine ⟨info, hinfo, Bool.and_eq_true_iff.mpr ⟨h.1, ?_⟩⟩
  rw [Option.all_eq_true]
  intro least hleast
  have hv := h.2 least hleast
  rw [Version.atLeast_iff] at hv ⊢
  rcases hle with hle | rfl
  · rcases hv with hv | rfl
    · exact .inl (hv.trans hle)
    · exact .inl hle
  · exact hv

namespace Version

/-- **Versions**: a version is read back from its text, the texts that are read are those that
denote a version, versions are ordered by their numbers, and so Hyper-V stays enabled for an
operating system in all versions after one for which it is. -/
theorem readBack_ordered_and_hypervEnabled_mono :
    (∀ v : Version, parse v.text = .ok v) ∧
      (∀ s v, parse s = .ok v ↔ v.IsDenotedBy s.toList) ∧
      (∀ s e, parse s = .error e ↔
        (¬ ∃ v : Version, v.IsDenotedBy s.toList) ∧ e = .version s) ∧
      (∀ v w : Version, (compare v w = .lt ↔ v.Precedes w) ∧ (compare v w = .eq ↔ v = w) ∧
        (compare v w = .gt ↔ w.Precedes v)) ∧
      ∀ (config : EngineConfig) (os : UInt32) (v w : Version), v.Precedes w ∨ v = w →
        config.hypervEnabled os v → config.hypervEnabled os w :=
  ⟨parse_text, fun _ _ => parse_eq_ok_iff, fun _ _ => parse_eq_error_iff,
    fun _ _ => ⟨compare_eq_lt_iff, compare_eq_eq_iff, compare_eq_gt_iff⟩,
    fun _ _ _ _ => EngineConfig.hypervEnabled_mono⟩

/-- An operating system for which Hyper-V is enabled from version 4.9 on has it in version 4.10,
whose text comes before, and not in version 4.8. -/
theorem hypervEnabled_ten_of_nine :
    let config : EngineConfig :=
      { EngineConfig.empty with systems := [⟨1, "windows", true, some ⟨4, 9⟩, .ide, .sata⟩] }
    "4.10" < "4.9" ∧ Precedes ⟨4, 9⟩ ⟨4, 10⟩ ∧ config.hypervEnabled 1 ⟨4, 9⟩ ∧
      config.hypervEnabled 1 ⟨4, 10⟩ ∧ ¬ config.hypervEnabled 1 ⟨4, 8⟩ := by
  intro config
  have hprecedes : Precedes ⟨4, 9⟩ ⟨4, 10⟩ := .inr ⟨rfl, by decide⟩
  have hnine : config.hypervEnabled 1 ⟨4, 9⟩ := by decide
  obtain ⟨-, -, -, -, hmono⟩ := readBack_ordered_and_hypervEnabled_mono
  exact ⟨by decide, hprecedes, hnine, hmono config 1 ⟨4, 9⟩ ⟨4, 10⟩ (.inl hprecedes) hnine,
    by decide⟩

end Version

end VmDescriptor
