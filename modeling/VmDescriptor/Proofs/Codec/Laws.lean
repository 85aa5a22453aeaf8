import VmDescriptor.Codec.Basic
import VmDescriptor.Proofs.Json.Canonical
import VmDescriptor.Proofs.Results

/-!
Laws of codecs.

A codec is stable if all that it reads is read back from how it is written. What is written may
differ from what was read, so this says that writing settles on one form of each value. A value
may be of none of the forms that are read, such as an address whose keys contain a comma; a codec
is faithful if there are no such values.
-/

namespace VmDescriptor

variable {α β κ ε : Type}

lemma mapM_map_eq_pure {m : Type → Type} [Monad m] [LawfulMonad m] {f : β → m α} {g : α → β}
    {as : List α} (h : ∀ a ∈ as, f (g a) = pure a) : (as.map g).mapM f = pure as := by
  induction as with
  | nil => rfl
  | cons a rest ih =>
    have hrest := ih fun a ha => h a (List.mem_cons_of_mem _ ha)
    simp only [List.map_cons, List.mapM_cons, h a List.mem_cons_self, hrest, pure_bind]

namespace Codec

/-! ### Laws -/

/-- The value is read back from how it is written, whatever the source, and is written as a
readable value. -/
class ReadsBack (c : Codec α) (a : α) : Prop where
  decode_encode : ∀ form, c.decode form (c.encode a) = .ok a
  readable : (c.encode a).isReadable

/-- All that is read is read back. -/
class Stable (c : Codec α) : Prop where
  readsBack : ∀ {form j a}, c.decode form j = .ok a → c.ReadsBack a

/-- The codec is stable and writes nothing as `null`. -/
class Lawful (c : Codec α) : Prop extends Stable c where
  ne_null : ∀ a, c.encode a ≠ .null

/-- All values are read back, and none is written as `null`. -/
class Faithful (c : Codec α) : Prop where
  readsBack : ∀ a, c.ReadsBack a
  ne_null : ∀ a, c.encode a ≠ .null

instance {c : Codec α} [h : c.Faithful] : c.Lawful where
  readsBack _ := h.readsBack _
  ne_null := h.ne_null

instance {c : Codec α} [h : c.Faithful] {a : α} : c.ReadsBack a := h.readsBack a

/-! ### Scalars -/

instance : string.Faithful where
  readsBack _ := ⟨fun _ => rfl, rfl⟩
  ne_null _ := by simp [string]

instance : boolean.Faithful where
  readsBack _ := ⟨fun _ => rfl, rfl⟩
  ne_null _ := by simp [boolean]

lemma Faithful.integer {low high : Int} {toInt : α → Int} {ofInt : Int → α}
    (hlow : ∀ a, low ≤ toInt a) (hhigh : ∀ a, toInt a < high) (h : ∀ a, ofInt (toInt a) = a) :
    (integer low high toInt ofInt).Faithful where
  readsBack a := by
    refine ⟨fun _ => ?_, rfl⟩
    simp only [Codec.integer, Json.int, hlow, hhigh, and_self, if_true, h]
  ne_null _ := by simp [Codec.integer, Json.int]

instance : uint32.Faithful :=
  .integer (fun _ => Int.natCast_nonneg _) (fun n => Int.ofNat_lt.mpr n.toNat_lt) fun n => by simp

instance : uint64.Faithful :=
  .integer (fun _ => Int.natCast_nonneg _) (fun n => Int.ofNat_lt.mpr n.toNat_lt) fun n => by simp

instance : int32.Faithful :=
  .integer (fun n => n.minValue_le_toInt) (fun n => Int.lt_add_one_iff.mpr n.toInt_le)
    Int32.ofInt_toInt

section

variable {text : α → String}

lemma readsBack_ofText {parse : String → Except DecodeError α} {a : α}
    (h : parse (text a) = .ok a) : (ofText text parse).ReadsBack a :=
  ⟨fun _ => h, rfl⟩

lemma Faithful.ofText {parse : String → Except DecodeError α}
    (h : ∀ a, parse (text a) = .ok a) : (ofText text parse).Faithful where
  readsBack a := readsBack_ofText (h a)
  ne_null _ := by simp [Codec.ofText]

variable {parse : String → Except Malformed α}

lemma readsBack_ofParser {a : α} (h : parse (text a) = .ok a) :
    (ofParser text parse).ReadsBack a :=
  readsBack_ofText (by rw [h]; rfl)

lemma Faithful.ofParser (h : ∀ a, parse (text a) = .ok a) : (ofParser text parse).Faithful :=
  .ofText fun a => by rw [h]; rfl

lemma Lawful.ofParser (h : ∀ s a, parse s = .ok a → parse (text a) = .ok a) :
    (ofParser text parse).Lawful where
  readsBack {form j a} hread := by
    cases j with
    | string s =>
      have hparse : (parse s).mapError DecodeError.malformed = .ok a := hread
      exact readsBack_ofParser (h s a (mapError_eq_ok_iff.mp hparse))
    | _ => cases hread
  ne_null _ := by simp [Codec.ofParser, Codec.ofText]

end

/-! ### Values in canonical form -/

instance : json.Stable where
  readsBack {_ j a} h := by
    simp only [json] at h
    split at h
    next hj =>
      cases h
      have hreadable := Json.isReadable_canonical hj
      refine ⟨fun _ => ?_, hreadable⟩
      simp only [json, id, hreadable, if_true, Json.canonical_canonical]
    next => cases h

/-! ### Options, lists and maps -/

lemma decode_option {c : Codec α} {form : Form} {j : Json} (h : j ≠ .null) :
    c.option.decode form j = (c.decode form j).map some := by
  cases j with
  | null => exact absurd rfl h
  | _ => rfl

instance {c : Codec α} : c.option.ReadsBack none := ⟨fun _ => rfl, rfl⟩

lemma readsBack_some {c : Codec α} {a : α} (ha : c.ReadsBack a) (hne : c.encode a ≠ .null) :
    c.option.ReadsBack (some a) where
  decode_encode form := (decode_option hne).trans (congrArg _ (ha.decode_encode form))
  readable := ha.readable

instance {c : Codec α} [hc : c.Faithful] {a : Option α} : c.option.ReadsBack a := by
  cases a with
  | none => infer_instance
  | some a => exact readsBack_some (hc.readsBack a) (hc.ne_null a)

instance {c : Codec α} [hc : c.Lawful] : c.option.Stable where
  readsBack {form j a} h := by
    by_cases hj : j = .null
    · subst hj
      cases h
      infer_instance
    · rw [decode_option hj] at h
      obtain ⟨a, ha, rfl⟩ := map_eq_ok_iff.mp h
      exact readsBack_some (hc.readsBack ha) (hc.ne_null a)

lemma readsBack_list {c : Codec α} {as : List α} (h : ∀ a ∈ as, c.ReadsBack a) :
    (list c).ReadsBack as where
  decode_encode form := mapM_map_eq_pure fun a ha => (h a ha).decode_encode form
  readable := by
    simp only [list, Json.isReadable, Json.itemsReadable_iff, List.mem_map]
    rintro _ ⟨a, ha, rfl⟩
    exact (h a ha).readable

instance {c : Codec α} : (list c).ReadsBack [] :=
  readsBack_list fun _ h => absurd h List.not_mem_nil

instance {c : Codec α} [hc : c.Faithful] : (list c).Faithful where
  readsBack _ := readsBack_list fun a _ => hc.readsBack a
  ne_null _ := by simp [list]

instance {c : Codec α} [hc : c.Stable] : (list c).Lawful where
  readsBack {form j as} h := by
    cases j with
    | array items =>
      refine readsBack_list fun a ha => ?_
      obtain ⟨j, -, hj⟩ := exists_of_mem_mapM h ha
      exact hc.readsBack hj
    | _ => cases h
  ne_null _ := by simp [list]

section

/-- Reads a key and its value. -/
def entry (parse : Json.Name → Except DecodeError κ) (c : Codec α) (form : Form)
    (field : Json.Name × Json) : Except DecodeError (κ × α) := do
  let k ← parse field.1
  let a ← c.decode form field.2
  return (k, a)

variable {text : κ → String} {parse : Json.Name → Except DecodeError κ} {c : Codec α}

lemma decode_of_entry_eq_ok {form : Form} {field : Json.Name × Json} {e : κ × α}
    (h : entry parse c form field = .ok e) : c.decode form field.2 = .ok e.2 := by
  obtain ⟨k, -, h⟩ := bind_eq_ok_iff.mp h
  obtain ⟨a, ha, h⟩ := bind_eq_ok_iff.mp h
  cases h
  exact ha

variable [Ord κ] [Std.TransOrd κ]

lemma decode_map (form : Form) (fields : List (Json.Name × Json)) :
    (map text parse c).decode form (.object fields) =
      (fields.mapM (entry parse c form)).map .ofList := rfl

lemma readsBack_map (hkey : ∀ k, parse (text k) = .ok k) {m : SortedMap κ α}
    (h : ∀ e ∈ m.entries, c.ReadsBack e.2) : (map text parse c).ReadsBack m where
  decode_encode form := by
    have hentries : (m.entries.map fun e => ((text e.1 : Json.Name), c.encode e.2)).mapM
        (entry parse c form) = .ok m.entries := by
      refine mapM_map_eq_pure fun e he => ?_
      simp only [entry, hkey, (h e he).decode_encode]
      rfl
    calc (map text parse c).decode form ((map text parse c).encode m)
      _ = .ok (.ofList m.entries) := congrArg (Except.map SortedMap.ofList) hentries
      _ = .ok m := congrArg Except.ok m.ofList_entries
  readable := by
    simp only [map, Json.isReadable, Json.fieldsReadable_iff, List.mem_map]
    rintro _ ⟨e, he, rfl⟩
    exact (h e he).readable

lemma readsBack_empty (hkey : ∀ k, parse (text k) = .ok k) :
    (map text parse c).ReadsBack .empty :=
  readsBack_map hkey fun _ h => absurd h List.not_mem_nil

lemma Faithful.map [hc : c.Faithful] (hkey : ∀ k, parse (text k) = .ok k) :
    (map text parse c).Faithful where
  readsBack _ := readsBack_map hkey fun e _ => hc.readsBack e.2
  ne_null _ := by simp [Codec.map]

lemma Lawful.map [hc : c.Stable] (hkey : ∀ k, parse (text k) = .ok k) :
    (map text parse c).Lawful where
  readsBack {form j m} h := by
    cases j with
    | object fields =>
      rw [decode_map] at h
      obtain ⟨entries, hentries, rfl⟩ := map_eq_ok_iff.mp h
      refine readsBack_map hkey fun e he => ?_
      obtain ⟨field, -, hfield⟩ :=
        exists_of_mem_mapM hentries (SortedMap.mem_of_mem_entries_ofList he)
      exact hc.readsBack (decode_of_entry_eq_ok hfield)
    | _ => cases h
  ne_null _ := by simp [Codec.map]

end

instance {c : Codec α} [c.Faithful] : (dictionary c).Faithful := .map fun _ => rfl

instance {c : Codec α} [c.Stable] : (dictionary c).Lawful := .map fun _ => rfl

instance {c : Codec α} : (dictionary c).ReadsBack .empty :=
  readsBack_empty fun _ => rfl

end Codec

end VmDescriptor
