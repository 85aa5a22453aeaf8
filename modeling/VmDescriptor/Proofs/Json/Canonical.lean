import VmDescriptor.Json.Basic
import VmDescriptor.Proofs.SortedMap

/-!
Canonical JSON values.

The fields of a canonical object are the entries of a map, under plainly spelled names. So a
canonical value is its own canonical form, and it is readable if the value is.
-/

namespace VmDescriptor.Json

/-- Entries as fields with plainly spelled names. -/
def plainFields (entries : List (String × Json)) : List (Name × Json) :=
  entries.map fun (name, j) => (name, j)

lemma setField_plainFields (name : String) (j : Json) (entries : List (String × Json)) :
    setField name j (plainFields entries) = plainFields (insertEntry name j entries) := by
  induction entries with
  | nil => rfl
  | cons e rest ih =>
    simp only [plainFields, List.map_cons, setField, insertEntry] at ih ⊢
    cases compare name e.1 <;> simp [ih]

lemma canonicalFields_plainFields (fields : List (Name × Json)) :
    ∀ entries : List (String × Json), canonicalFields fields (plainFields entries) =
      plainFields (insertEntries entries (fields.map fun e => (e.1.text, e.2.canonical))) := by
  induction fields with
  | nil => exact fun _ => rfl
  | cons e rest ih =>
    intro entries
    rw [canonicalFields, setField_plainFields, ih]
    rfl

/-- The canonical fields of an object are those of a map. -/
lemma canonical_object (fields : List (Name × Json)) :
    (object fields).canonical = .object (plainFields
      (SortedMap.ofList (fields.map fun e => (e.1.text, e.2.canonical))).entries) := by
  rw [canonical, SortedMap.entries_ofList]
  exact congrArg _ (canonicalFields_plainFields fields [])

lemma canonicalItems_eq (items : List Json) : canonicalItems items = items.map canonical := by
  induction items with
  | nil => rfl
  | cons j rest ih => rw [canonicalItems, ih, List.map_cons]

lemma itemsReadable_iff {items : List Json} :
    itemsReadable items ↔ ∀ j ∈ items, j.isReadable := by
  induction items with
  | nil => simp [itemsReadable]
  | cons j rest ih => simp [itemsReadable, ih]

lemma fieldsReadable_iff {fields : List (Name × Json)} :
    fieldsReadable fields ↔ ∀ e ∈ fields, e.2.isReadable := by
  induction fields with
  | nil => simp [fieldsReadable]
  | cons e rest ih =>
    obtain ⟨name, j⟩ := e
    simp [fieldsReadable, ih]

/-- An object is its own canonical form if it has the entries of a map of canonical values. -/
lemma canonical_plainFields {m : SortedMap String Json}
    (h : ∀ e ∈ m.entries, e.2.canonical = e.2) :
    (object (plainFields m.entries)).canonical = .object (plainFields m.entries) := by
  have hentries : ((plainFields m.entries).map fun e => (e.1.text, e.2.canonical)) =
      m.entries := by
    rw [plainFields, List.map_map]
    exact (List.map_congr_left fun e he => by simp [h e he]).trans (List.map_id _)
  rw [canonical_object, hentries, m.ofList_entries]

/-- Induction over values: an array or an object has what all its parts have. -/
@[elab_as_elim]
theorem induct {P : Json → Prop} (null : P .null) (boolean : ∀ b, P (.boolean b))
    (number : ∀ n, P (.number n)) (string : ∀ s, P (.string s))
    (array : ∀ items, (∀ j ∈ items, P j) → P (.array items))
    (object : ∀ fields, (∀ e ∈ fields, P e.2) → P (.object fields))
    (unreadable : P .unreadable) : ∀ j : Json, P j :=
  @Json.rec P (fun items => ∀ j ∈ items, P j) (fun fields => ∀ e ∈ fields, P e.2) (fun e => P e.2)
    null boolean number string array object unreadable
    (fun _ h => absurd h List.not_mem_nil)
    (fun _ _ hj hrest => List.forall_mem_cons.mpr ⟨hj, hrest⟩)
    (fun _ h => absurd h List.not_mem_nil)
    (fun _ _ he hrest => List.forall_mem_cons.mpr ⟨he, hrest⟩)
    (fun _ _ hj => hj)

/-- **The canonical form is canonical**. -/
theorem canonical_canonical (j : Json) : j.canonical.canonical = j.canonical := by
  induction j using induct with
  | array items ih =>
    simp only [canonical, canonicalItems_eq, List.map_map, array.injEq]
    exact List.map_congr_left ih
  | object fields ih =>
    rw [canonical_object]
    refine canonical_plainFields fun e he => ?_
    obtain ⟨e', he', rfl⟩ := List.mem_map.mp (SortedMap.mem_of_mem_entries_ofList he)
    exact ih e' he'
  | null | boolean b | number n | string s | unreadable => rfl

/-- The canonical form of a readable value is readable. -/
theorem isReadable_canonical {j : Json} (h : j.isReadable) : j.canonical.isReadable := by
  induction j using induct with
  | array items ih =>
    simp only [isReadable, itemsReadable_iff] at h
    simp only [canonical, canonicalItems_eq, isReadable, itemsReadable_iff, List.mem_map]
    rintro _ ⟨j, hj, rfl⟩
    exact ih j hj (h j hj)
  | object fields ih =>
    simp only [isReadable, fieldsReadable_iff] at h
    simp only [canonical_object, isReadable, fieldsReadable_iff, plainFields, List.mem_map]
    rintro _ ⟨e, he, rfl⟩
    obtain ⟨e', he', rfl⟩ := List.mem_map.mp (SortedMap.mem_of_mem_entries_ofList he)
    exact ih e' he' (h e' he')
  | unreadable => cases h
  | null | boolean b | number n | string s => rfl

end VmDescriptor.Json
