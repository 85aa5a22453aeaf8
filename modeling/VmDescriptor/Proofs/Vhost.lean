import VmDescriptor.Descriptor.Interfaces
import VmDescriptor.Proofs.Descriptor.Builds
import VmDescriptor.Proofs.SortedMap
import VmDescriptor.Proofs.Text.Blank
import VmDescriptor.Proofs.Text.Casing

/-!
Backends that the `vhost` property chooses.

The first entry of the property for a network decides alone, even if it has no colon or its value
is no truth value; only then is anything reported. So settings that are written one after the
other, in any letter case and with any blanks around their parts, are read back: a network has the
backend of its first setting.
-/

namespace VmDescriptor.Vhost

open Text Program Descriptor

/-! ### First entries -/

/-- The value stands in the first of the entries with this name. -/
def IsFirst {α : Type} (entries : List (String × α)) (name : String) (value : α) : Prop :=
  ∃ before after, entries = before ++ (name, value) :: after ∧ name ∉ before.map Prod.fst

section

variable {α β : Type} {entries : List (String × α)} {name : String} {value : α}

lemma lookup_eq_some_iff_isFirst :
    entries.lookup name = some value ↔ IsFirst entries name value := by
  simp only [List.lookup_eq_some_iff, forall_bne_iff_notMem, IsFirst]

/-- Lists with related values under the same names have related first values. -/
lemma lookup_rel_of_forall₂ {R : α → β → Prop} {entries' : List (String × β)}
    (h : List.Forall₂ (fun e e' => e.1 = e'.1 ∧ R e.2 e'.2) entries entries') (name : String) :
    Option.Rel R (entries.lookup name) (entries'.lookup name) := by
  induction h with
  | nil => exact .none
  | cons he _ ih =>
    rw [lookup_cons_ite, lookup_cons_ite, he.1]
    split
    · exact .some he.2
    · exact ih

end

/-! ### The entries of a text -/

/-- The piece denotes an entry: the texts before and after its first colon without the blanks at
their ends, or itself without these and the empty value if it has no colon. -/
inductive Denotes : List Char → String × String → Prop
  | setting {name value : List Char} (h : ':' ∉ name) :
    Denotes (name ++ ':' :: value) (.ofList (trim name), .ofList (trim value))
  | bare {name : List Char} (h : ':' ∉ name) : Denotes name (.ofList (trim name), "")

/-- The property lists entries: those that its pieces between commas denote, in order. -/
def Lists (property : String) (listed : List (String × String)) : Prop :=
  ∃ pieces, pieces ≠ [] ∧ (∀ piece ∈ pieces, ',' ∉ piece) ∧
    property.toList = [','].intercalate pieces ∧ List.Forall₂ Denotes pieces listed

lemma denotes_iff {piece : List Char} {e : String × String} :
    Denotes piece e ↔ entry piece = e := by
  constructor
  · rintro (hname | hname)
    · rw [entry, cut_append hname]
    · rw [entry, cut_eq_none_iff.mpr hname]
  · rintro rfl
    unfold entry
    split
    next name value hcut =>
      obtain ⟨rfl, hname⟩ := eq_append_of_cut hcut
      exact .setting hname
    next hcut => exact .bare (cut_eq_none_iff.mp hcut)

lemma forall₂_denotes_iff {pieces : List (List Char)} {listed : List (String × String)} :
    List.Forall₂ Denotes pieces listed ↔ pieces.map entry = listed := by
  have hdenotes : Denotes = fun piece e => entry piece = e :=
    funext₂ fun _ _ => propext denotes_iff
  rw [hdenotes, ← List.forall₂_map_left_iff (R := Eq), List.forall₂_eq_eq_eq]

/-- A property lists its entries and no others. -/
lemma lists_iff {property : String} {listed : List (String × String)} :
    Lists property listed ↔ listed = entries property := by
  constructor
  · rintro ⟨pieces, hne, hcomma, hproperty, hlisted⟩
    rw [entries, hproperty, List.splitOn_intercalate _ hcomma hne]
    exact (forall₂_denotes_iff.mp hlisted).symm
  · rintro rfl
    exact ⟨property.toList.splitOn ',', List.splitOn_ne_nil _ _, notMem_of_mem_splitOn,
      (List.intercalate_splitOn _).symm, forall₂_denotes_iff.mpr rfl⟩

/-! ### Decisions -/

/-- A run is decided by a value for the network: a truth value in any letter case chooses a backend
and nothing is reported; any other value chooses none and is reported. -/
inductive Decides (network value : String) : Run (Option String) → Prop
  | kernel (h : Casing "true" value) : Decides network value ⟨.ok (some "vhost"), [], []⟩
  | emulator (h : Casing "false" value) : Decides network value ⟨.ok (some "qemu"), [], []⟩
  | invalid (htrue : ¬ Casing "true" value) (hfalse : ¬ Casing "false" value) :
    Decides network value ⟨.ok none, [], [.invalidVhost network value]⟩

/-- A run follows a list of entries: the first one for the network decides, and without one
nothing is chosen. A warning is given just when the value that decides is no truth value. -/
structure FollowsFirst (network : String) (listed : List (String × String))
    (run : Run (Option String)) : Prop where
  decides : ∀ value, IsFirst listed network value → Decides network value run
  unlisted : network ∉ listed.map Prod.fst → run = ⟨.ok none, [], []⟩
  reported : run.notices ≠ [] ↔
    ∃ value, IsFirst listed network value ∧ ¬ Casing "true" value ∧ ¬ Casing "false" value
  warnings : ∀ n ∈ run.notices, n.level = .warning

section

variable {network value : String} {run : Run (Option String)}

lemma Decides.notices_ne_nil_iff (h : Decides network value run) :
    run.notices ≠ [] ↔ ¬ Casing "true" value ∧ ¬ Casing "false" value := by
  cases h with
  | kernel h => simp [h]
  | emulator h => simp [h]
  | invalid htrue hfalse => simp [htrue, hfalse]

lemma Decides.level_of_mem (h : Decides network value run) {n : Notice} (hn : n ∈ run.notices) :
    n.level = .warning := by
  cases h with
  | kernel => cases hn
  | emulator => cases hn
  | invalid =>
    obtain rfl := List.mem_singleton.mp hn
    rfl

end

lemma ofText_cases (value : String) :
    Setting.ofText value = .kernel ∧ Casing "true" value ∨
      Setting.ofText value = .emulator ∧ Casing "false" value ∨
      Setting.ofText value = .invalid value ∧ ¬ Casing "true" value ∧ ¬ Casing "false" value := by
  have htrue : sameLetters value "true" ↔ Casing "true" value :=
    sameLetters_iff_casing (by decide)
  have hfalse : sameLetters value "false" ↔ Casing "false" value :=
    sameLetters_iff_casing (by decide)
  unfold Setting.ofText
  rw [← htrue, ← hfalse]
  split
  next h => exact .inl ⟨rfl, h⟩
  next h =>
    split
    next h' => exact .inr (.inl ⟨rfl, h'⟩)
    next h' => exact .inr (.inr ⟨rfl, h, h'⟩)

section

variable {vm : VirtualMachine} {nic : Nic} {property network : String} (stores : Stores)
  (hproperty : vm.customProperty? "vhost" = some property)
  (hnetwork : nic.networkName = some network)

include hproperty hnetwork

lemma run_driver?_of_unlisted (h : network ∉ (entries property).map Prod.fst) :
    (driver? vm nic).run stores = ⟨.ok none, [], []⟩ := by
  have hnone : setting? property network = none := by
    rw [setting?, lookup_eq_none_iff_notMem.mpr h]
    rfl
  simp only [driver?, hproperty, hnetwork, hnone]
  rfl

/-- The first entry for the network decides. -/
lemma decides_of_isFirst {value : String} (h : IsFirst (entries property) network value) :
    Decides network value ((driver? vm nic).run stores) := by
  have hset : setting? property network = some (.ofText value) := by
    rw [setting?, lookup_eq_some_iff_isFirst.mpr h]
    rfl
  simp only [driver?, hproperty, hnetwork, hset]
  rcases ofText_cases value with ⟨hof, h⟩ | ⟨hof, h⟩ | ⟨hof, htrue, hfalse⟩
  · rw [hof]
    exact .kernel h
  · rw [hof]
    exact .emulator h
  · rw [hof]
    exact .invalid htrue hfalse

lemma followsFirst_entries :
    FollowsFirst network (entries property) ((driver? vm nic).run stores) := by
  have hdecides : ∀ value, IsFirst (entries property) network value →
      Decides network value ((driver? vm nic).run stores) :=
    fun _ => decides_of_isFirst stores hproperty hnetwork
  have hunlisted := run_driver?_of_unlisted stores hproperty hnetwork
  have hfirst (hne : ((driver? vm nic).run stores).notices ≠ []) :
      ∃ value, IsFirst (entries property) network value := by
    cases hlookup : (entries property).lookup network with
    | none => exact absurd (by rw [hunlisted (lookup_eq_none_iff_notMem.mp hlookup)]) hne
    | some value => exact ⟨value, lookup_eq_some_iff_isFirst.mp hlookup⟩
  refine ⟨hdecides, hunlisted, ⟨fun hne => ?_, ?_⟩, fun n hn => ?_⟩
  · obtain ⟨value, h⟩ := hfirst hne
    exact ⟨value, h, (hdecides value h).notices_ne_nil_iff.mp hne⟩
  · rintro ⟨value, h, hvalue⟩
    exact (hdecides value h).notices_ne_nil_iff.mpr hvalue
  · obtain ⟨value, h⟩ := hfirst (List.ne_nil_of_mem hn)
    exact (hdecides value h).level_of_mem hn

end

/-! ### Written settings -/

/-- A name that an entry can have: it is trimmed and has no separator in it. -/
structure IsName (network : String) : Prop where
  trim : trim network.toList = network.toList
  comma_notMem : ',' ∉ network.toList
  colon_notMem : ':' ∉ network.toList

/-- The word for a truth value. -/
def truthWord (on : Bool) : String := if on then "true" else "false"

/-- The backend that a truth value stands for. -/
def backend (on : Bool) : String := if on then "vhost" else "qemu"

/-- The piece sets a network to a truth value: it is the name and the word for the value in any
letter case with a colon between, and with any blanks around either. -/
inductive Sets : List Char → String × Bool → Prop
  | mk {network word : String} {on : Bool} {name value : List Char} (hnetwork : IsName network)
    (hword : Casing (truthWord on) word) (hname : Padded network.toList name)
    (hvalue : Padded word.toList value) : Sets (name ++ ':' :: value) (network, on)

/-- The property is written from settings, with a comma between any two. -/
def Writes (property : String) (settings : List (String × Bool)) : Prop :=
  ∃ pieces, property.toList = [','].intercalate pieces ∧ List.Forall₂ Sets pieces settings

/-- A run follows settings: the first one for the network chooses its backend, and no backend is
chosen for any other name that is not empty; nothing is reported. -/
structure FollowsSettings (network : String) (settings : List (String × Bool))
    (run : Run (Option String)) : Prop where
  chosen : ∀ on, IsFirst settings network on → run = ⟨.ok (some (backend on)), [], []⟩
  unset : network ∉ settings.map Prod.fst → network ≠ "" → run = ⟨.ok none, [], []⟩

/-- No word for a truth value has blanks or commas. -/
lemma plain_of_casing {on : Bool} {word : String} (h : Casing (truthWord on) word) :
    (∀ c ∈ word.toList, ¬ isBlank c) ∧ ',' ∉ word.toList := by
  have hplain := h.forall_of_all (P := fun c => !isBlank c && c != ',') (by cases on <;> decide)
  simp only [Bool.and_eq_true, Bool.not_eq_true', bne_iff_ne] at hplain
  exact ⟨fun c hc => by simp [(hplain c hc).1], fun hc => (hplain _ hc).2 rfl⟩

section

variable {piece : List Char} {s : String × Bool}

lemma comma_notMem_of_sets (h : Sets piece s) : ',' ∉ piece := by
  obtain ⟨hnetwork, hword, hname, hvalue⟩ := h
  have hblank : ¬ isBlank ',' := by decide
  rw [List.mem_append, List.mem_cons]
  rintro (hmem | hmem | hmem)
  · exact hnetwork.comma_notMem (hname.mem_inside hmem hblank)
  · cases hmem
  · exact (plain_of_casing hword).2 (hvalue.mem_inside hmem hblank)

/-- What sets a network denotes an entry with the name of the network and a truth value. -/
lemma entry_of_sets (h : Sets piece s) :
    (entry piece).1 = s.1 ∧ Casing (truthWord s.2) (entry piece).2 := by
  obtain @⟨network, word, on, name, value, hnetwork, hword, hname, hvalue⟩ := h
  have hcolon : ':' ∉ name := fun hmem =>
    hnetwork.colon_notMem (hname.mem_inside hmem (by decide))
  have hblank := (plain_of_casing hword).1
  rw [entry, cut_append hcolon]
  dsimp only
  rw [trim_of_padded hname, hnetwork.trim, trim_of_padded hvalue,
    trim_of_forall_not_isBlank hblank, String.ofList_toList, String.ofList_toList]
  exact ⟨rfl, hword⟩

end

/-- A property that is written from no settings has one entry, without a name. -/
lemma entries_of_writes_nil {property : String} (h : Writes property []) :
    entries property = [("", "")] := by
  obtain ⟨pieces, hproperty, hsets⟩ := h
  obtain rfl := List.forall₂_nil_right_iff.mp hsets
  rw [entries, hproperty]
  rfl

/-- The entries of a property are those that it is written from, if there are any. -/
lemma entries_of_writes {property : String} {settings : List (String × Bool)}
    (h : Writes property settings) (hne : settings ≠ []) :
    List.Forall₂ (fun e s => e.1 = s.1 ∧ Casing (truthWord s.2) e.2) (entries property)
      settings := by
  obtain ⟨pieces, hproperty, hsets⟩ := h
  have hpieces : pieces ≠ [] := by
    rintro rfl
    exact hne (List.forall₂_nil_left_iff.mp hsets)
  have hcomma : ∀ piece ∈ pieces, ',' ∉ piece := fun piece hpiece => by
    obtain ⟨s, -, hs⟩ := exists_mem_of_forall₂ hsets.flip hpiece
    exact comma_notMem_of_sets hs
  rw [entries, hproperty, List.splitOn_intercalate _ hcomma hpieces, List.forall₂_map_left_iff]
  exact hsets.imp fun _ _ => entry_of_sets

lemma Decides.eq_of_casing {network value : String} {run : Run (Option String)} {on : Bool}
    (h : Decides network value run) (hvalue : Casing (truthWord on) value) :
    run = ⟨.ok (some (backend on)), [], []⟩ := by
  -- The words are told apart by their lengths.
  have hboth : ¬ (Casing "true" value ∧ Casing "false" value) := fun h =>
    absurd (h.1.length_eq.trans h.2.length_eq.symm) (by decide)
  cases on with
  | true =>
    cases h with
    | kernel => rfl
    | emulator h => exact absurd ⟨hvalue, h⟩ hboth
    | invalid htrue => exact absurd hvalue htrue
  | false =>
    cases h with
    | kernel h => exact absurd ⟨h, hvalue⟩ hboth
    | emulator => rfl
    | invalid _ hfalse => exact absurd hvalue hfalse

/-- What follows the entries of a property follows the settings that it is written from. -/
lemma FollowsFirst.followsSettings {property network : String} {settings : List (String × Bool)}
    {run : Run (Option String)} (h : FollowsFirst network (entries property) run)
    (hwrites : Writes property settings) : FollowsSettings network settings run := by
  cases settings with
  | nil =>
    refine ⟨?_, fun _ hne => h.unlisted ?_⟩
    · rintro on ⟨before, after, hsplit, -⟩
      simp at hsplit
    · rw [entries_of_writes_nil hwrites]
      simpa using hne
  | cons s rest =>
    have hrel := lookup_rel_of_forall₂ (R := fun value on => Casing (truthWord on) value)
      (entries_of_writes hwrites (List.cons_ne_nil _ _)) network
    constructor
    · intro on hfirst
      rw [lookup_eq_some_iff_isFirst.mpr hfirst] at hrel
      cases hlookup : (entries property).lookup network with
      | none => simp [hlookup] at hrel
      | some value =>
        rw [hlookup] at hrel
        cases hrel with
        | some hvalue =>
          exact (h.decides value (lookup_eq_some_iff_isFirst.mp hlookup)).eq_of_casing hvalue
    · intro hunset _
      rw [lookup_eq_none_iff_notMem.mpr hunset] at hrel
      refine h.unlisted (lookup_eq_none_iff_notMem.mp ?_)
      cases hlookup : (entries property).lookup network with
      | none => rfl
      | some value => simp [hlookup] at hrel

/-- **The `vhost` property**: of the entries of any text the first one for a network decides alone,
and settings are read back from every text that is written from them. -/
theorem followsFirst_and_followsSettings {vm : VirtualMachine} {nic : Nic}
    {property network : String} (hproperty : vm.customProperty? "vhost" = some property)
    (hnetwork : nic.networkName = some network) (stores : Stores) :
    (∃ listed, (∀ listed', Lists property listed' ↔ listed' = listed) ∧
      FollowsFirst network listed ((driver? vm nic).run stores)) ∧
    ∀ settings, Writes property settings →
      FollowsSettings network settings ((driver? vm nic).run stores) := by
  have hfollows := followsFirst_entries stores hproperty hnetwork
  exact ⟨⟨entries property, fun _ => lists_iff, hfollows⟩,
    fun _ hwrites => hfollows.followsSettings hwrites⟩

/-- Of two settings for a network the first one chooses its backend, and a network without one has
none. An entry without a colon decides although a setting comes later. -/
theorem followsFirst_and_followsSettings_twice :
    let vm (property : String) : VirtualMachine :=
      { Fixture.plainMachine none [] [] with
        customProperties := SortedMap.empty.insert "vhost" property }
    let nic (network : String) : Nic :=
      ⟨⟨1⟩, default, "", "56:6f", true, true, none, some network, none⟩
    let run (property network : String) : Run (Option String) :=
      (driver? (vm property) (nic network)).run (.ofInventory .empty)
    let written := " lan :TRUE,dmz: False,lan:false"
    (vm written).customProperty? "vhost" = some written ∧
      (vm "lan,lan:true").customProperty? "vhost" = some "lan,lan:true" ∧
      Writes written [("lan", true), ("dmz", false), ("lan", false)] ∧
      run written "lan" = ⟨.ok (some "vhost"), [], []⟩ ∧
      run written "guest" = ⟨.ok none, [], []⟩ ∧
      run "lan,lan:true" "lan" = ⟨.ok none, [], [.invalidVhost "lan" ""]⟩ := by
  intro vm nic run written
  have hproperty (property : String) : (vm property).customProperty? "vhost" = some property := by
    rfl
  have hfollows (property network : String) :=
    followsFirst_and_followsSettings (hproperty property)
      (rfl : (nic network).networkName = some network) (.ofInventory .empty)
  have hname : IsName "lan" ∧ IsName "dmz" :=
    ⟨⟨by decide, by decide, by decide⟩, ⟨by decide, by decide, by decide⟩⟩
  have hword : Casing "true" "TRUE" ∧ Casing "false" "False" ∧ Casing "false" "false" := by
    decide
  have hspace : ∀ c ∈ [' '], isBlank c := List.forall_mem_singleton.mpr (by decide)
  have hwrites : Writes written [("lan", true), ("dmz", false), ("lan", false)] := by
    refine ⟨[" lan ".toList ++ ':' :: "TRUE".toList, "dmz".toList ++ ':' :: " False".toList,
      "lan".toList ++ ':' :: "false".toList], by decide, .cons ?_ (.cons ?_ (.cons ?_ .nil))⟩
    · exact .mk hname.1 hword.1 ⟨[' '], [' '], hspace, hspace, rfl⟩ (padded_self _)
    · exact .mk hname.2 hword.2.1 (padded_self _)
        ⟨[' '], [], hspace, List.forall_mem_nil _, rfl⟩
    · exact .mk hname.1 hword.2.2 (padded_self _) (padded_self _)
  have hwritten (network : String) := (hfollows written network).2 _ hwrites
  refine ⟨hproperty _, hproperty _, hwrites, (hwritten "lan").chosen true ⟨[], _, rfl, by simp⟩,
    (hwritten "guest").unset (by decide) (by decide), ?_⟩
  obtain ⟨listed, hlisted, hfirst⟩ := (hfollows "lan,lan:true" "lan").1
  obtain rfl : [("lan", ""), ("lan", "true")] = listed := (hlisted _).mp (lists_iff.mpr rfl)
  cases hfirst.decides "" ⟨[], _, rfl, by simp⟩ with
  | invalid => rfl

end VmDescriptor.Vhost
