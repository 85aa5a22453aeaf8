import VmDescriptor.Proofs.Address

/-!
Addresses by their settings and by their texts.

Keys that are set one after the other stand in the order in which they were first set, each with
the value that was set last. A text is read as the settings that the pieces between its commas
denote, unless a piece is broken: it has no equals sign, or nothing but blanks before the first.
-/

namespace VmDescriptor

open Text

/-! ### Settings -/

section

variable (key value : String) (attributes : List (String × String))

lemma keys_setAttribute :
    (setAttribute key value attributes).map Prod.fst = attributes.map Prod.fst ++
      if key ∈ attributes.map Prod.fst then [] else [key] := by
  induction attributes with
  | nil => rfl
  | cons e rest ih =>
    rw [setAttribute, List.map_cons]
    by_cases hkey : e.1 = key
    · simp [hkey]
    · simp only [hkey, if_false, List.map_cons, ih, List.mem_cons, Ne.symm hkey, false_or,
        List.cons_append]

lemma lookup_setAttribute (k : String) :
    (setAttribute key value attributes).lookup k =
      if k = key then some value else attributes.lookup k := by
  induction attributes with
  | nil => exact lookup_cons_ite k (key, value) []
  | cons e rest ih =>
    rw [setAttribute]
    split
    next heq =>
      rw [lookup_cons_ite, lookup_cons_ite, heq]
      split <;> rfl
    next hne =>
      rw [lookup_cons_ite, lookup_cons_ite, ih]
      by_cases hk : k = e.1
      · rw [if_pos hk, if_pos hk, if_neg (hk ▸ hne)]
      · rw [if_neg hk, if_neg hk]

end

namespace Address

/-- The address remembers some settings: its keys differ and stand in the order in which they were
first set, and each has the value that was set last. -/
structure Remembers (a : Address) (settings : List (String × String)) : Prop where
  distinct : (a.attributes.map Prod.fst).Nodup
  keys : a.attributes.map Prod.fst = (settings.map Prod.fst).eraseDups
  values : ∀ e ∈ a.attributes, settings.reverse.lookup e.1 = some e.2
  get? : ∀ key, a.get? key = settings.reverse.lookup key

lemma get?_of_mem {a : Address} {e : String × String} (h : e ∈ a.attributes) :
    a.get? e.1 = some e.2 := by
  obtain ⟨before, after, hsplit⟩ := List.append_of_mem h
  refine List.lookup_eq_some_iff.mpr ⟨before, after, hsplit, fun e' he' => ?_⟩
  have hdistinct := a.distinct
  rw [hsplit, List.map_append, List.map_cons, List.nodup_append] at hdistinct
  rw [bne_iff_ne]
  exact (hdistinct.2.2 _ (List.mem_map_of_mem he') _ List.mem_cons_self).symm

lemma remembers_of_get? {a : Address} {settings : List (String × String)}
    (hkeys : a.attributes.map Prod.fst = (settings.map Prod.fst).eraseDups)
    (hget : ∀ key, a.get? key = settings.reverse.lookup key) : a.Remembers settings where
  distinct := a.distinct
  keys := hkeys
  values _ he := (hget _).symm.trans (get?_of_mem he)
  get? := hget

/-- One more setting is remembered after those before. -/
lemma Remembers.set {a : Address} {settings : List (String × String)} (h : a.Remembers settings)
    (e : String × String) : (a.set e.1 e.2).Remembers (settings ++ [e]) := by
  have hmem : e.1 ∈ a.attributes.map Prod.fst ↔ e.1 ∈ settings.map Prod.fst := by
    rw [h.keys, List.mem_eraseDups]
  refine remembers_of_get? ?_ fun key => ?_
  · rw [Address.set, keys_setAttribute, h.keys, List.map_append, List.eraseDups_append, ← h.keys]
    congr 1
    by_cases hkey : e.1 ∈ settings.map Prod.fst
    · rw [if_pos (hmem.mpr hkey)]
      simp [List.removeAll, hkey]
    · rw [if_neg (mt hmem.mp hkey)]
      simp [List.removeAll, hkey, List.eraseDups_cons]
  · have hset : (a.set e.1 e.2).get? key = if key = e.1 then some e.2 else a.get? key :=
      lookup_setAttribute _ _ _ _
    rw [hset, h.get?, List.reverse_append, List.reverse_singleton, List.singleton_append,
      lookup_cons_ite]

theorem remembers_ofList (settings : List (String × String)) :
    (ofList settings).Remembers settings := by
  -- Settings are added at the end of those before.
  induction settings using List.reverseRecOn with
  | nil => exact remembers_of_get? rfl fun _ => rfl
  | append_singleton settings e ih =>
    have hlast : ofList (settings ++ [e]) = (ofList settings).set e.1 e.2 := by
      rw [ofList, List.foldl_append]
      rfl
    rw [hlast]
    exact ih.set e

/-! ### Pieces -/

/-- A piece without an equals sign, or with nothing but blanks before the first one. -/
def Broken (piece : List Char) : Prop :=
  '=' ∉ piece ∨
    ∃ key value, piece = key ++ '=' :: value ∧ '=' ∉ key ∧ ∀ c ∈ key, isBlank c

/-- The piece denotes a key and a value: the texts before and after its first equals sign without
the blanks at their ends. -/
inductive Denotes : List Char → String × String → Prop
  | mk {key value : List Char} (hkey : '=' ∉ key) (hblank : ¬ ∀ c ∈ key, isBlank c) :
      Denotes (key ++ '=' :: value) (.ofList (trim key), .ofList (trim value))

lemma parseEntry_of_denotes {piece : List Char} {e : String × String} (h : Denotes piece e) :
    parseEntry piece = .ok e := by
  obtain ⟨hkey, hblank⟩ := h
  rw [parseEntry, cut_append hkey]
  simp only [List.isEmpty_iff, trim_eq_nil_iff, hblank, if_false]

lemma parseEntry_of_broken {piece : List Char} (h : Broken piece) :
    parseEntry piece = .error (.addressEntry (.ofList (trim piece))) := by
  rcases h with hnone | ⟨key, value, rfl, hkey, hblank⟩
  · rw [parseEntry, cut_eq_none_iff.mpr hnone]
  · rw [parseEntry, cut_append hkey]
    simp only [List.isEmpty_iff, trim_eq_nil_iff]
    rw [if_pos hblank]

/-- A piece is broken or it denotes an attribute. -/
lemma broken_or_denotes (piece : List Char) : Broken piece ∨ ∃ e, Denotes piece e := by
  cases hcut : cut '=' piece with
  | none => exact .inl (.inl (cut_eq_none_iff.mp hcut))
  | some p =>
    obtain ⟨rfl, hkey⟩ := eq_append_of_cut hcut
    by_cases hblank : ∀ c ∈ p.1, isBlank c
    · exact .inl (.inr ⟨p.1, p.2, rfl, hkey, hblank⟩)
    · exact .inr ⟨_, .mk hkey hblank⟩

lemma parseEntry_eq_ok_iff {piece : List Char} {e : String × String} :
    parseEntry piece = .ok e ↔ Denotes piece e := by
  refine ⟨fun h => ?_, parseEntry_of_denotes⟩
  rcases broken_or_denotes piece with hbroken | ⟨e', he'⟩
  · cases (parseEntry_of_broken hbroken).symm.trans h
  · cases (parseEntry_of_denotes he').symm.trans h
    exact he'

lemma parseEntry_eq_error_iff {piece : List Char} {e : Malformed} :
    parseEntry piece = .error e ↔ Broken piece ∧ e = .addressEntry (.ofList (trim piece)) := by
  constructor
  · intro h
    rcases broken_or_denotes piece with hbroken | ⟨e', he'⟩
    · cases (parseEntry_of_broken hbroken).symm.trans h
      exact ⟨hbroken, rfl⟩
    · cases (parseEntry_of_denotes he').symm.trans h
  · rintro ⟨hbroken, rfl⟩
    exact parseEntry_of_broken hbroken

lemma not_broken_iff {piece : List Char} : ¬ Broken piece ↔ ∃ e, parseEntry piece = .ok e := by
  simp only [parseEntry_eq_ok_iff]
  constructor
  · exact (broken_or_denotes piece).resolve_left
  · rintro ⟨e, he⟩ hbroken
    cases (parseEntry_of_denotes he).symm.trans (parseEntry_of_broken hbroken)

/-! ### Texts -/

/-- The text without blanks at its ends is the body and blanks around it, between an opening brace
and a closing one if the text has them; of several braces only the outermost are taken away. -/
def Encloses (cs body : List Char) : Prop :=
  ∃ opening inner closing, trim cs = opening ++ inner ++ closing ∧
    (opening = ['\x7b'] ∨ opening = [] ∧ (trim cs).head? ≠ some '\x7b') ∧
    (closing = ['\x7d'] ∨ closing = [] ∧ inner.getLast? ≠ some '\x7d') ∧
    body = trim inner

/-- The pieces of a body between its commas; a body that is empty has none. -/
def pieces (body : List Char) : List (List Char) :=
  if body = [] then [] else body.splitOn ','

/-- A result is that of reading the pieces: the first broken one is the error, and if there is
none, what the pieces denote is set in their order. -/
structure ReadFrom (pieces : List (List Char)) (result : Except Malformed Address) : Prop where
  fails : (∃ e, result = .error e) ↔ ∃ piece ∈ pieces, Broken piece
  error : ∀ e, result = .error e → ∃ before piece after, pieces = before ++ piece :: after ∧
    (∀ p ∈ before, ¬ Broken p) ∧ Broken piece ∧ e = .addressEntry (.ofList (trim piece))
  address : ∀ a, result = .ok a → ∃ settings, List.Forall₂ Denotes pieces settings ∧
    a = ofList settings

/-- What is left of a text when its braces are taken away. -/
lemma withoutBraces_eq {cs opening inner closing : List Char}
    (htrim : trim cs = opening ++ inner ++ closing)
    (hopening : opening = ['\x7b'] ∨ opening = [] ∧ (trim cs).head? ≠ some '\x7b')
    (hclosing : closing = ['\x7d'] ∨ closing = [] ∧ inner.getLast? ≠ some '\x7d') :
    withoutBraces cs = trim inner := by
  have hfront : withoutBraces cs = trim
      (if (inner ++ closing).getLast? = some '\x7d' then (inner ++ closing).dropLast
        else inner ++ closing) := by
    unfold withoutBraces
    rcases hopening with rfl | ⟨rfl, hhead⟩
    · rw [htrim]
      rfl
    · rw [List.nil_append] at htrim
      rw [← htrim]
      cases hcs : trim cs with
      | nil => rfl
      | cons c rest =>
        have hc : c ≠ '\x7b' := by
          rintro rfl
          exact hhead (by rw [hcs]; rfl)
        simp [hc]
  rw [hfront]
  rcases hclosing with rfl | ⟨rfl, hlast⟩
  · rw [List.getLast?_concat, if_pos rfl, List.dropLast_concat]
  · rw [List.append_nil, if_neg hlast]

lemma encloses_withoutBraces (cs : List Char) : Encloses cs (withoutBraces cs) := by
  obtain ⟨opening, rest, htrim, hopening⟩ : ∃ opening rest, trim cs = opening ++ rest ∧
      (opening = ['\x7b'] ∨ opening = [] ∧ (trim cs).head? ≠ some '\x7b') := by
    by_cases h : (trim cs).head? = some '\x7b'
    · exact ⟨['\x7b'], (trim cs).tail, (List.cons_head?_tail h).symm, .inl rfl⟩
    · exact ⟨[], trim cs, rfl, .inr ⟨rfl, h⟩⟩
  obtain ⟨inner, closing, hrest, hclosing⟩ : ∃ inner closing, rest = inner ++ closing ∧
      (closing = ['\x7d'] ∨ closing = [] ∧ inner.getLast? ≠ some '\x7d') := by
    by_cases h : rest.getLast? = some '\x7d'
    · exact ⟨rest.dropLast, ['\x7d'], (List.dropLast_append_getLast? _ h).symm, .inl rfl⟩
    · exact ⟨rest, [], (List.append_nil _).symm, .inr ⟨rfl, h⟩⟩
  rw [hrest, ← List.append_assoc] at htrim
  exact ⟨opening, inner, closing, htrim, hopening, hclosing,
    withoutBraces_eq htrim hopening hclosing⟩

/-- A text encloses one body. -/
lemma encloses_iff {cs body : List Char} : Encloses cs body ↔ body = withoutBraces cs := by
  constructor
  · rintro ⟨opening, inner, closing, htrim, hopening, hclosing, rfl⟩
    exact (withoutBraces_eq htrim hopening hclosing).symm
  · rintro rfl
    exact encloses_withoutBraces cs

lemma parse_eq (s : String) :
    parse s = ((pieces (withoutBraces s.toList)).mapM parseEntry).map ofList := by
  unfold parse pieces
  simp only [List.isEmpty_iff]
  split <;> rfl

lemma readFrom_parse (s : String) : ReadFrom (pieces (withoutBraces s.toList)) (parse s) := by
  rw [parse_eq]
  generalize pieces (withoutBraces s.toList) = pieces
  have herror (e : Malformed) : (pieces.mapM parseEntry).map ofList = .error e ↔
      ∃ before piece after, pieces = before ++ piece :: after ∧ (∀ p ∈ before, ¬ Broken p) ∧
        Broken piece ∧ e = .addressEntry (.ofList (trim piece)) := by
    rw [map_eq_error_iff, mapM_eq_error_iff]
    simp only [not_broken_iff, parseEntry_eq_error_iff]
  refine ⟨⟨?_, ?_⟩, fun e => (herror e).mp, fun a h => ?_⟩
  · rintro ⟨e, he⟩
    obtain ⟨before, piece, after, rfl, -, hbroken, -⟩ := (herror e).mp he
    exact ⟨piece, by simp, hbroken⟩
  · rintro ⟨piece, hmem, hbroken⟩
    cases hread : pieces.mapM parseEntry with
    | error e => exact ⟨e, rfl⟩
    | ok settings =>
      have hpiece := exists_mapM_eq_ok_iff.mp ⟨settings, hread⟩ piece hmem
      exact absurd hbroken (not_broken_iff.mpr hpiece)
  · obtain ⟨settings, hread, rfl⟩ := map_eq_ok_iff.mp h
    refine ⟨settings, ?_, rfl⟩
    exact (mapM_eq_ok_iff.mp hread).imp fun _ _ => parseEntry_eq_ok_iff.mp

/-- **Settings and texts**: an address remembers what is set, and every text is read as the
settings that the pieces of the body it encloses denote, up to the first broken one. -/
theorem remembers_and_readFrom :
    (∀ settings, (ofList settings).Remembers settings) ∧
      ∀ s, ∃ body, (∀ body', Encloses s.toList body' ↔ body' = body) ∧
        ReadFrom (pieces body) (parse s) :=
  ⟨remembers_ofList, fun s => ⟨withoutBraces s.toList, fun _ => encloses_iff, readFrom_parse s⟩⟩

end Address

end VmDescriptor
