import VmDescriptor.Address
import VmDescriptor.Proofs.Codec.Laws
import VmDescriptor.Proofs.Text.Blank

/-!
Addresses that were read are read back from how they are written.

An address may be built with a key that contains a comma, and its text then says something else.
No such key is ever read: the keys and values that are read are trimmed, none contains a comma,
and no key is empty or contains an equals sign. Such plain attributes are what it takes for an
address to be read back.
-/

namespace VmDescriptor

open Text

/-! ### Attributes -/

lemma mem_setAttribute {key value : String} {e : String × String} :
    ∀ {attributes : List (String × String)},
      e ∈ setAttribute key value attributes → e = (key, value) ∨ e ∈ attributes
  | [], h => .inl (List.mem_singleton.mp h)
  | (k, v) :: rest, h => by
    rw [setAttribute] at h
    split at h
    next hk =>
      rcases List.mem_cons.mp h with rfl | h
      · exact .inl (by rw [hk])
      · exact .inr (List.mem_cons_of_mem _ h)
    next =>
      rcases List.mem_cons.mp h with rfl | h
      · exact .inr List.mem_cons_self
      · exact (mem_setAttribute h).imp_right (List.mem_cons_of_mem _)

lemma setAttribute_of_notMem {key value : String} :
    ∀ {attributes : List (String × String)}, key ∉ attributes.map Prod.fst →
      setAttribute key value attributes = attributes ++ [(key, value)]
  | [], _ => rfl
  | (k, v) :: rest, h => by
    rw [List.map_cons, List.mem_cons, not_or] at h
    rw [setAttribute, if_neg (Ne.symm h.1), setAttribute_of_notMem h.2, List.cons_append]

namespace Address

lemma attributes_foldl_set {entries : List (String × String)} :
    ∀ {a : Address}, ((a.attributes ++ entries).map Prod.fst).Nodup →
      (entries.foldl (fun a (k, v) => a.set k v) a).attributes = a.attributes ++ entries := by
  induction entries with
  | nil => exact fun _ => (List.append_nil _).symm
  | cons e rest ih =>
    intro a h
    have hnew : e.1 ∉ a.attributes.map Prod.fst := by
      rw [List.map_append, List.map_cons] at h
      exact fun hmem => (List.nodup_append.mp h).2.2 _ hmem _ List.mem_cons_self rfl
    have hset : (a.set e.1 e.2).attributes = a.attributes ++ [e] := setAttribute_of_notMem hnew
    have hassoc : a.attributes ++ e :: rest = (a.set e.1 e.2).attributes ++ rest := by
      rw [hset, List.append_assoc, List.singleton_append]
    rw [hassoc] at h ⊢
    rw [List.foldl_cons, ih h]

/-- An address is made of its own attributes. -/
theorem ofList_attributes (a : Address) : ofList a.attributes = a :=
  ext (attributes_foldl_set a.distinct)

lemma mem_attributes_foldl_set {entries : List (String × String)} {e : String × String} :
    ∀ {a : Address}, e ∈ (entries.foldl (fun a (k, v) => a.set k v) a).attributes →
      e ∈ a.attributes ∨ e ∈ entries := by
  induction entries with
  | nil => exact fun h => .inl h
  | cons e' rest ih =>
    intro a h
    rcases ih h with h | h
    · rcases mem_setAttribute h with rfl | h
      · exact .inr List.mem_cons_self
      · exact .inl h
    · exact .inr (List.mem_cons_of_mem _ h)

lemma mem_attributes_ofList {entries : List (String × String)} {e : String × String}
    (h : e ∈ (ofList entries).attributes) : e ∈ entries :=
  (mem_attributes_foldl_set h).resolve_left List.not_mem_nil

/-! ### Entries -/

/-- A key and a value as they may be read. -/
structure Plain (e : String × String) : Prop where
  key_ne_nil : e.1.toList ≠ []
  trim_key : trim e.1.toList = e.1.toList
  trim_value : trim e.2.toList = e.2.toList
  equals_notMem_key : '=' ∉ e.1.toList
  comma_notMem_key : ',' ∉ e.1.toList
  comma_notMem_value : ',' ∉ e.2.toList

/-- The characters of a key and its value. -/
def entryChars (e : String × String) : List Char :=
  e.1.toList ++ '=' :: e.2.toList

lemma plain_of_parseEntry {cs : List Char} {e : String × String} (hcs : ',' ∉ cs)
    (h : parseEntry cs = .ok e) : Plain e := by
  unfold parseEntry at h
  split at h
  next key value hcut =>
    obtain ⟨hsplit, hequals⟩ := eq_append_of_cut hcut
    split at h
    next => cases h
    next hne =>
      have hcomma {c : Char} (hc : c ∈ key ∨ c ∈ value) : c ∈ cs := by
        rw [hsplit, List.mem_append, List.mem_cons]
        exact hc.imp_right .inr
      have htrim {c : Char} {cs : List Char} (h : c ∈ (String.ofList (trim cs)).toList) :
          c ∈ cs := by
        rw [String.toList_ofList] at h
        exact mem_of_mem_trim h
      cases h
      exact {
        key_ne_nil := by simpa using hne
        trim_key := by rw [String.toList_ofList, trim_trim]
        trim_value := by rw [String.toList_ofList, trim_trim]
        equals_notMem_key := fun h => hequals (htrim h)
        comma_notMem_key := fun h => hcs (hcomma (.inl (htrim h)))
        comma_notMem_value := fun h => hcs (hcomma (.inr (htrim h))) }
  next => cases h

lemma parseEntry_entryChars {e : String × String} (h : Plain e) :
    parseEntry (entryChars e) = .ok e := by
  have hne : (e.1.toList.isEmpty) = false := by simpa using h.key_ne_nil
  simp [parseEntry, entryChars, cut_append h.equals_notMem_key, h.trim_key, h.trim_value, hne]

/-- A space before an entry does not matter. -/
lemma parseEntry_cons_space (cs : List Char) : parseEntry (' ' :: cs) = parseEntry cs := by
  have hspace : isBlank ' ' := by decide
  have hcut : cut '=' (' ' :: cs) = (cut '=' cs).map fun p => (' ' :: p.1, p.2) :=
    cut_cons_of_ne (by decide) cs
  rw [parseEntry, parseEntry, hcut]
  cases cut '=' cs with
  | none => simp only [Option.map_none, trim_cons_of_isBlank hspace]
  | some p => simp only [Option.map_some, trim_cons_of_isBlank hspace]

lemma comma_notMem_entryChars {e : String × String} (h : Plain e) : ',' ∉ entryChars e := by
  have hequals : ',' ≠ '=' := by decide
  simp [entryChars, h.comma_notMem_key, h.comma_notMem_value, hequals]

lemma trim_entryChars {e : String × String} (h : Plain e) :
    trim (entryChars e) = entryChars e := by
  have hequals : trim ['='] = ['='] := by decide
  cases hvalue : e.2.toList with
  | nil =>
    have htrim := trim_append_append [] h.trim_key hequals h.key_ne_nil (List.cons_ne_nil _ _)
    simpa [entryChars, hvalue] using htrim
  | cons c rest =>
    have htrim := trim_append_append ['='] h.trim_key (hvalue ▸ h.trim_value) h.key_ne_nil
      (List.cons_ne_nil _ _)
    simpa [entryChars, hvalue] using htrim

/-! ### Texts -/

/-- The characters of several entries with commas between. -/
def entriesChars (entries : List (String × String)) : List Char :=
  [',', ' '].intercalate (entries.map entryChars)

lemma entriesChars_cons_cons (e e' : String × String) (rest : List (String × String)) :
    entriesChars (e :: e' :: rest) = entryChars e ++ ',' :: ' ' :: entriesChars (e' :: rest) := by
  simp [entriesChars]

lemma entryChars_ne_nil (e : String × String) : entryChars e ≠ [] := by
  simp [entryChars]

/-- Entries with commas between begin and end with characters that are not blank. -/
lemma trim_entriesChars {rest : List (String × String)} :
    ∀ {e : String × String}, (∀ e' ∈ e :: rest, Plain e') →
      trim (entriesChars (e :: rest)) = entriesChars (e :: rest) ∧
        entriesChars (e :: rest) ≠ [] := by
  induction rest with
  | nil =>
    intro e h
    have hsingle : entriesChars [e] = entryChars e := by simp [entriesChars]
    rw [hsingle]
    exact ⟨trim_entryChars (h e List.mem_cons_self), entryChars_ne_nil e⟩
  | cons e' rest ih =>
    intro e h
    rw [List.forall_mem_cons] at h
    obtain ⟨htrim, hne⟩ := ih h.2
    have hbetween := trim_append_append [',', ' '] (trim_entryChars h.1) htrim
      (entryChars_ne_nil e) hne
    rw [entriesChars_cons_cons]
    refine ⟨by simpa using hbetween, by simp⟩

/-- Splitting at commas yields the entries, all but the first one after a space. -/
lemma splitOn_entriesChars {rest : List (String × String)} :
    ∀ {e : String × String} (spaces : List Char), ',' ∉ spaces →
      (∀ e' ∈ e :: rest, Plain e') → (spaces ++ entriesChars (e :: rest)).splitOn ',' =
        (spaces ++ entryChars e) :: rest.map fun e' => ' ' :: entryChars e' := by
  -- The first entry of the rest has a space before it, so what stands before the first entry is
  -- arbitrary.
  induction rest with
  | nil =>
    intro e spaces hspaces h
    have hcomma := comma_notMem_entryChars (h e List.mem_cons_self)
    have hsingle : entriesChars [e] = entryChars e := by simp [entriesChars]
    rw [hsingle]
    exact List.splitOn_eq_singleton (by simp [hspaces, hcomma])
  | cons e' rest ih =>
    intro e spaces hspaces h
    rw [List.forall_mem_cons] at h
    have hcomma : ',' ∉ spaces ++ entryChars e := by
      simp [hspaces, comma_notMem_entryChars h.1]
    have hrest := ih [' '] (by decide) h.2
    calc (spaces ++ entriesChars (e :: e' :: rest)).splitOn ','
      _ = (spaces ++ entryChars e ++ ',' :: ([' '] ++ entriesChars (e' :: rest))).splitOn ',' := by
        rw [entriesChars_cons_cons, List.append_assoc, List.singleton_append]
      _ = (spaces ++ entryChars e) :: ([' '] ++ entriesChars (e' :: rest)).splitOn ',' :=
        List.splitOn_append_cons_self_of_not_mem hcomma _
      _ = (spaces ++ entryChars e) :: (e' :: rest).map fun e' => ' ' :: entryChars e' := by
        rw [hrest, List.singleton_append, List.map_cons]

lemma mapM_parseEntry {e : String × String} {rest : List (String × String)}
    (h : ∀ e' ∈ e :: rest, Plain e') :
    ((entriesChars (e :: rest)).splitOn ',').mapM parseEntry = .ok (e :: rest) := by
  rw [List.forall_mem_cons] at h
  have hrest : (rest.map fun e' => ' ' :: entryChars e').mapM parseEntry = .ok rest :=
    mapM_map_eq_pure fun e' he' =>
      (parseEntry_cons_space _).trans (parseEntry_entryChars (h.2 e' he'))
  have hsplit := splitOn_entriesChars [] List.not_mem_nil (List.forall_mem_cons.mpr h)
  rw [List.nil_append, List.nil_append] at hsplit
  rw [hsplit, List.mapM_cons, parseEntry_entryChars h.1, hrest]
  rfl

lemma toList_text (a : Address) :
    a.text.toList = '\x7b' :: entriesChars a.attributes ++ ['\x7d'] := by
  have hentry : String.toList ∘ (fun e : String × String => e.1 ++ "=" ++ e.2) = entryChars := by
    funext e
    simp [entryChars]
  simp [text, String.toList_intercalate, entriesChars, hentry]

lemma withoutBraces_text {a : Address} (h : trim (entriesChars a.attributes) =
    entriesChars a.attributes) : withoutBraces a.text.toList = entriesChars a.attributes := by
  have hbraces : trim a.text.toList = a.text.toList := by
    have hopen : trim ['\x7b'] = ['\x7b'] := by decide
    have hclose : trim ['\x7d'] = ['\x7d'] := by decide
    have htrim := trim_append_append (entriesChars a.attributes) hopen hclose
      (List.cons_ne_nil _ _) (List.cons_ne_nil _ _)
    rw [toList_text]
    exact htrim
  rw [withoutBraces, hbraces, toList_text]
  simp [h]

/-- An address of plain attributes is read back from the text that it is stored as. -/
lemma parse_stored {a : Address} (h : ∀ e ∈ a.attributes, Plain e) : parse a.stored = .ok a := by
  cases hattributes : a.attributes with
  | nil =>
    have hempty : a = empty := ext hattributes
    subst hempty
    rfl
  | cons e rest =>
    have hplain := h
    rw [hattributes] at hplain
    obtain ⟨htrim, hne⟩ := trim_entriesChars hplain
    rw [← hattributes] at htrim hne hplain
    have hentries := mapM_parseEntry (hattributes ▸ hplain)
    have hstored : a.stored = a.text := by simp [stored, isEmpty, hattributes]
    rw [hstored, parse, withoutBraces_text htrim]
    simp only [List.isEmpty_iff, hne, if_false]
    rw [hattributes, hentries]
    exact congrArg Except.ok (by rw [← hattributes, ofList_attributes])

/-- The attributes of an address that was read are plain. -/
lemma plain_of_parse {s : String} {a : Address} (h : parse s = .ok a) :
    ∀ e ∈ a.attributes, Plain e := by
  intro e he
  simp only [parse] at h
  split at h
  next =>
    cases h
    exact absurd he List.not_mem_nil
  next =>
    obtain ⟨entries, hentries, rfl⟩ := map_eq_ok_iff.mp h
    obtain ⟨cs, hcs, hparse⟩ := exists_of_mem_mapM hentries (mem_attributes_ofList he)
    exact plain_of_parseEntry (notMem_of_mem_splitOn cs hcs) hparse

/-- **What is read as an address is read back** from the text that the address is stored as. -/
theorem parse_stored_of_parse {s : String} {a : Address} (h : parse s = .ok a) :
    parse a.stored = .ok a :=
  parse_stored (plain_of_parse h)

/-- An address of plain attributes is read back from its text in braces, also if it is empty. -/
lemma parse_text {a : Address} (h : ∀ e ∈ a.attributes, Plain e) : parse a.text = .ok a := by
  cases hempty : a.isEmpty with
  | true =>
    obtain rfl : a = empty := ext (List.isEmpty_iff.mp hempty)
    rfl
  | false =>
    have hstored : a.stored = a.text := by simp [stored, hempty]
    rw [← hstored]
    exact parse_stored h

/-- **Addresses that are read back**: an address is read back from its text, and from the text
that it is stored as, just when its attributes are plain. So are those of all addresses that were
read. -/
theorem parse_text_iff (a : Address) :
    (parse a.text = .ok a ↔ ∀ e ∈ a.attributes, Plain e) ∧
      (parse a.stored = .ok a ↔ ∀ e ∈ a.attributes, Plain e) ∧
      ∀ s, parse s = .ok a → parse a.text = .ok a ∧ parse a.stored = .ok a :=
  ⟨⟨plain_of_parse, parse_text⟩, ⟨plain_of_parse, parse_stored⟩, fun _ h =>
    ⟨parse_text (plain_of_parse h), parse_stored (plain_of_parse h)⟩⟩

/-- Braces in keys and values and a second equals sign are read back; a comma in a value is not. -/
theorem parse_text_iff_braces :
    let a := ofList [("\x7ba", "\x7bb=c\x7d"), ("d", "\x7d")]
    parse "\x7b\x7ba=\x7bb=c\x7d,d= \x7d\x7d" = .ok a ∧ parse a.text = .ok a ∧
      parse a.stored = .ok a ∧ parse (a.set "e" "1,f=2").text ≠ .ok (a.set "e" "1,f=2") := by
  intro a
  have hread : parse "\x7b\x7ba=\x7bb=c\x7d,d= \x7d\x7d" = .ok a := by rfl
  obtain ⟨htext, hstored⟩ := (parse_text_iff a).2.2 _ hread
  refine ⟨hread, htext, hstored, fun h => ?_⟩
  have hplain := (parse_text_iff (a.set "e" "1,f=2")).1.mp h ("e", "1,f=2") (by decide)
  exact hplain.comma_notMem_value (by decide)

instance : codec.Lawful := .ofParser fun _ _ => parse_stored_of_parse

instance : codec.ReadsBack empty := Codec.readsBack_ofParser rfl

end Address

end VmDescriptor
