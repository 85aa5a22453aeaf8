import VmDescriptor.Device.Parameters
import VmDescriptor.Proofs.SortedMap
import VmDescriptor.Proofs.Text.Blank
import VmDescriptor.Proofs.Text.Numeral

/-!
Parameters that are stored as strings.

A number or truth value may be stored as the string that holds its text. Read as a text or as a
number it is the same either way, with the same errors. Read as a truth value a truth value is the
same too; a number, however, is an error, and the string with its text is false like any string
that is not `true`.
-/

namespace VmDescriptor

open Text

namespace Json

/-- The string that holds the text of a number or truth value; any other value is kept. -/
def spelledOut : Json → Json
  | .number n => .string n.text
  | .boolean b => .string (Json.boolean b).text
  | j => j

/-! ### Texts of numbers -/

namespace Number

lemma exists_toDigits_eq (n : Nat) : ∃ c rest, Nat.toDigits 10 n = c :: rest ∧ c.isDigit := by
  obtain ⟨c, rest, h⟩ := List.exists_cons_of_ne_nil (Nat.toDigits_ne_nil (b := 10) (n := n))
  exact ⟨c, rest, h, Nat.isDigit_of_mem_toDigits (by decide) (by decide) (h ▸ List.mem_cons_self)⟩

/-- A text of digits and a point or an exponent. -/
structure IsRealText (s : String) : Prop where
  digit : ∃ c ∈ s.toList, c.isDigit
  separator : ∃ c ∈ s.toList, c = '.' ∨ c = 'e'

lemma isRealText_decimalText (f : RealFormat) (d : Shortest.Decimal) :
    IsRealText (decimalText f d) := by
  obtain ⟨c, rest, hdigits, hc⟩ := exists_toDigits_eq d.digits
  unfold decimalText
  dsimp only
  rw [hdigits]
  -- Digits may stand on both sides of the point.
  have hsplit (n : Nat) : c ∈ (c :: rest).take n ∨ c ∈ (c :: rest).drop n := by
    rw [← List.mem_append, List.take_append_drop]
    exact List.mem_cons_self
  split_ifs
  · exact ⟨⟨c, by simp, hc⟩, '.', by simp, .inl rfl⟩
  · refine ⟨⟨c, ?_, hc⟩, '.', by simp, .inl rfl⟩
    simp only [String.toList_append, String.toList_ofList, List.mem_append]
    exact (hsplit _).imp_left .inl
  · exact ⟨⟨c, by simp, hc⟩, '.', by simp, .inl rfl⟩
  · exact ⟨⟨c, by simp, hc⟩, 'e', by simp [exponentText], .inr rfl⟩
  · exact ⟨⟨c, by simp, hc⟩, 'e', by simp [exponentText], .inr rfl⟩

lemma isRealText_realText (x : Float) : IsRealText (realText x) := by
  have hbody : IsRealText
      (if x == 0 then "0.0" else decimalText realFormat (Shortest.ofPositive x.abs)) := by
    split
    · exact ⟨⟨'0', by decide, by decide⟩, '.', by decide, .inl rfl⟩
    · exact isRealText_decimalText _ _
  unfold realText
  dsimp only
  split
  · obtain ⟨⟨c, hc, hdigit⟩, c', hc', hseparator⟩ := hbody
    exact ⟨⟨c, by simp [hc], hdigit⟩, c', by simp [hc'], hseparator⟩
  · exact hbody

/-- Whatever number a text is of, it has a digit. -/
lemma exists_digit_text (n : Number) : ∃ c ∈ n.text.toList, c.isDigit := by
  have hdecimal (m : Nat) : ∃ c ∈ (decimal m).toList, c.isDigit := by
    obtain ⟨c, rest, h, hc⟩ := exists_toDigits_eq m
    exact ⟨c, by simp [decimal, h], hc⟩
  cases n with
  | integer n =>
    cases n with
    | ofNat m => exact hdecimal m
    | negSucc m =>
      obtain ⟨c, hc, hdigit⟩ := hdecimal (m + 1)
      exact ⟨c, by simp [text, signedDecimal, hc], hdigit⟩
  | real x => exact (isRealText_realText x).digit

/-- The text of a number is the numeral of a natural number, or of none. -/
lemma unsigned?_trim_text (bound : Nat) (n : Number) :
    unsigned? bound (trim n.text.toList) = match n with
      | .integer (.ofNat m) => if m < bound then some m else none
      | _ => none := by
  cases n with
  | integer n =>
    cases n with
    | ofNat m =>
      have hblank : ∀ c ∈ Nat.toDigits 10 m, ¬ isBlank c := fun c hc =>
        not_isBlank_of_isDigit (Nat.isDigit_of_mem_toDigits (by decide) (by decide) hc)
      have hchars : (text (.integer (.ofNat m))).toList = Nat.toDigits 10 m := String.toList_ofList
      rw [hchars, trim_of_forall_not_isBlank hblank, unsigned?_toDigits]
    | negSucc m =>
      have hminus : '-' ∈ (text (.integer (.negSucc m))).toList := by simp [text, signedDecimal]
      exact unsigned?_eq_none_of_mem (mem_trim hminus (by decide)) (by decide) (by decide)
  | real x =>
    obtain ⟨c, hc, hseparator⟩ := (isRealText_realText x).separator
    have hkept : ¬ isBlank c ∧ ¬ c.isDigit ∧ c ≠ '+' := by
      rcases hseparator with rfl | rfl <;> decide
    exact unsigned?_eq_none_of_mem (mem_trim hc hkept.1) hkept.2.1 hkept.2.2

/-- No text of a number is that of a truth value. -/
lemma sameLetters_text_true (n : Number) : sameLetters n.text "true" = false := by
  obtain ⟨c, hc, hdigit⟩ := n.exists_digit_text
  rw [sameLetters, beq_eq_false_iff_ne]
  intro h
  have hmem : c.toLower ∈ "true".toList.map Char.toLower := h ▸ List.mem_map_of_mem hc
  rw [toLower_of_isDigit hdigit] at hmem
  have hletters : ("true".toList.map Char.toLower).all (!·.isDigit) := by decide
  exact absurd hdigit (by simpa using List.all_eq_true.mp hletters c hmem)

end Number

end Json

namespace Parameters

variable {p p' : Parameters} {key : String}

/-- Where the first parameters have a number or truth value, the second ones have it or the string
that holds its text; any other value they have in common. -/
def RespelledAt (p p' : Parameters) (key : String) : Prop :=
  p'.get? key = p.get? key ∨ p'.get? key = (p.get? key).map Json.spelledOut

/-- The second parameters are the first ones with any numbers and truth values stored as strings. -/
def Respelled (p p' : Parameters) : Prop :=
  ∀ key, RespelledAt p p' key

/-- A number among the first parameters is a string among the second ones. -/
def NumberSpelledOut (p p' : Parameters) (key : String) : Prop :=
  ∃ n, p.get? key = some (.number n) ∧ p'.get? key = some (.string n.text)

/-- One value is stored as a string. -/
lemma respelled_insert {j : Json} (h : p.get? key = some j) :
    Respelled p (p.insert key j.spelledOut) := by
  intro key'
  rw [RespelledAt, SortedMap.get?_insert]
  by_cases hkey : key' = key
  · rw [if_pos hkey, hkey, h]
    exact .inr rfl
  · rw [if_neg hkey]
    exact .inl rfl

lemma RespelledAt.cases (h : RespelledAt p p' key) : p'.get? key = p.get? key ∨
    NumberSpelledOut p p' key ∨
    ∃ b, p.get? key = some (.boolean b) ∧ p'.get? key = some (.string (Json.boolean b).text) := by
  rcases h with h | h
  · exact .inl h
  · cases hj : p.get? key with
    | none => exact .inl (by rw [h, hj]; rfl)
    | some j =>
      rw [hj] at h
      cases j with
      | number n => exact .inr (.inl ⟨n, hj, h⟩)
      | boolean b => exact .inr (.inr ⟨b, rfl, h⟩)
      | _ => exact .inl h

lemma contains_respelled (h : RespelledAt p p' key) : p'.contains key = p.contains key := by
  rw [SortedMap.contains, SortedMap.contains]
  rcases h with h | h
  · rw [h]
  · rw [h, Option.isSome_map]

/-! ### Readings -/

lemma string?_respelled (h : RespelledAt p p' key) : p'.string? key = p.string? key := by
  unfold string?
  rcases h.cases with h | ⟨n, hn, hs⟩ | ⟨b, hb, hs⟩
  · rw [h]
  · rw [hn, hs]
  · rw [hb, hs]

lemma string_respelled (h : RespelledAt p p' key) : p'.string key = p.string key := by
  rw [string, string, string?_respelled h]

lemma nat?_respelled (h : RespelledAt p p' key) : p'.nat? key = p.nat? key := by
  unfold nat?
  rcases h.cases with h | ⟨n, hn, hs⟩ | ⟨b, hb, hs⟩
  · rw [h]
  · rw [hn, hs]
    dsimp only
    rw [Json.Number.unsigned?_trim_text]
    cases n with
    | integer n =>
      cases n with
      | ofNat m =>
        dsimp only
        by_cases hm : m < UInt64.size
        · rw [if_pos hm, if_pos hm]
        · rw [if_neg hm, if_neg hm]
          rfl
      | negSucc m => rfl
    | real x => rfl
  · rw [hb, hs]
    cases b <;> rfl

/-- Read as a truth value a number is an error, and its text is false. -/
lemma boolean?_of_number {n : Json.Number} (hn : p.get? key = some (.number n))
    (hs : p'.get? key = some (.string n.text)) :
    p.boolean? key = .error (.invalid key n.text) ∧ p'.boolean? key = .ok (some false) := by
  unfold boolean?
  rw [hn, hs]
  refine ⟨rfl, ?_⟩
  dsimp only
  rw [n.sameLetters_text_true]

lemma boolean?_respelled (h : RespelledAt p p' key) (hnumber : ¬ NumberSpelledOut p p' key) :
    p'.boolean? key = p.boolean? key := by
  unfold boolean?
  rcases h.cases with h | h | ⟨b, hb, hs⟩
  · rw [h]
  · exact absurd h hnumber
  · rw [hb, hs]
    cases b <;> rfl

/-- What is stored at a key is read alike in both parameters, unless a number that is stored as a
string is read as a truth value. -/
structure ReadAlike (p p' : Parameters) (key : String) : Prop where
  optionalText : p'.string? key = p.string? key
  text : p'.string key = p.string key
  number : p'.nat? key = p.nat? key
  truthValue : ¬ NumberSpelledOut p p' key → p'.boolean? key = p.boolean? key
  numberAsTruthValue : ∀ n, p.get? key = some (.number n) → p'.get? key = some (.string n.text) →
    p.boolean? key = .error (.invalid key n.text) ∧ p'.boolean? key = .ok (some false)

lemma readAlike_of_respelledAt (h : RespelledAt p p' key) : ReadAlike p p' key :=
  ⟨string?_respelled h, string_respelled h, nat?_respelled h, boolean?_respelled h,
    fun _ => boolean?_of_number⟩

end Parameters

end VmDescriptor
