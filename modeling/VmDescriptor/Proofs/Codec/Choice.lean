import VmDescriptor.Codec.Choice
import VmDescriptor.Proofs.Codec.Record

/-!
Members of enumerations and tagged records are read back.
-/

namespace VmDescriptor.Codec

variable {α : Type}

lemma Faithful.enumeration {all : List α} {name : α → String} {other : Option α}
    (h : ∀ a, member all name other (name a) = .ok a) :
    (enumeration all name other).Faithful where
  readsBack a := ⟨fun _ => h a, rfl⟩
  ne_null _ := by simp [Codec.enumeration]

/-! ### Tags among fields -/

lemma without_of_notMem {name : String} {fields : List (Json.Name × Json)}
    (h : name ∉ fields.map (·.1.text)) : without name fields = fields := by
  rw [without, List.filter_eq_self]
  intro e he
  rw [bne_iff_ne]
  rintro rfl
  exact h (List.mem_map_of_mem he)

lemma without_cons_self {name : String} {j : Json} {fields : List (Json.Name × Json)}
    (h : name ∉ fields.map (·.1.text)) : without name ((name, j) :: fields) = fields := by
  have hrest := without_of_notMem h
  rw [without] at hrest ⊢
  rw [List.filter_cons_of_neg (by simp), hrest]

lemma soleTag_cons {tag : String} {j : Json} {fields : List (Json.Name × Json)}
    (h : tag ∉ fields.map (·.1.text)) : soleTag tag ((tag, j) :: fields) = .ok j := by
  have hrest := Fields.occurrences_go_of_notMem h 1
  simp [soleTag, Fields.occurrences, Fields.occurrences.go, hrest]

/-! ### Records of several kinds -/

/-- A kind of records: its name, and how what stands beside the tag is read. -/
abbrev Kind (α : Type) := String × (Form → Json → Except DecodeError α)

variable {tag : String} {kinds : List (Kind α)} {kind : α → String × List (Json.Name × Json)}

/-- The record is written as one of a kind, and what is written beside the tag is read back. -/
structure WrittenAs (tag : String) (kind : α → String × List (Json.Name × Json)) (k : Kind α)
    (a : α) : Prop where
  name_eq : (kind a).1 = k.1
  tag_notMem : tag ∉ (kind a).2.map (·.1.text)
  readable : (Json.object (kind a).2).isReadable
  read_eq : k.2 .tagged (.object (kind a).2) = .ok a

lemma find?_of_mem {k : Kind α} (hnames : (kinds.map Prod.fst).Nodup) (hk : k ∈ kinds) :
    kinds.find? (·.1 == k.1) = some k := by
  induction kinds with
  | nil => cases hk
  | cons k' rest ih =>
    rw [List.map_cons, List.nodup_cons] at hnames
    rcases List.mem_cons.mp hk with rfl | hk
    · rw [List.find?_cons_of_pos (by simp)]
    · have hne : k'.1 ≠ k.1 := fun heq => hnames.1 (heq ▸ List.mem_map_of_mem hk)
      rw [List.find?_cons_of_neg (by simpa using hne), ih hnames.2 hk]

lemma contents_of_mem (hnames : (kinds.map Prod.fst).Nodup) {k : Kind α} (hk : k ∈ kinds)
    {j : Json} (hj : j.isReadable) : contents kinds k.1 j = k.2 .tagged j := by
  simp [contents, member, find?_of_mem hnames hk, hj, bind, Except.bind]

lemma readsBack_tagged (hnames : (kinds.map Prod.fst).Nodup) {k : Kind α} (hk : k ∈ kinds)
    {a : α} (h : WrittenAs tag kind k a) : (tagged tag kinds kind).ReadsBack a where
  decode_encode form := by
    have htag : soleTag tag ((tag, .string (kind a).1) :: (kind a).2) =
        .ok (.string (kind a).1) := soleTag_cons h.tag_notMem
    simp only [tagged, htag, without_cons_self h.tag_notMem, tagText, bind, Except.bind]
    rw [h.name_eq, contents_of_mem hnames hk h.readable, h.read_eq]
  readable := by
    have hreadable := h.readable
    rw [Json.isReadable, Json.fieldsReadable_iff] at hreadable
    simp only [tagged, Json.isReadable, Json.fieldsReadable_iff]
    rw [List.forall_mem_cons]
    exact ⟨rfl, hreadable⟩

/-- **Tagged records are read back** if each is written as one of some kind. -/
theorem Faithful.tagged (hnames : (kinds.map Prod.fst).Nodup)
    (h : ∀ a, ∃ k ∈ kinds, WrittenAs tag kind k a) : (tagged tag kinds kind).Faithful where
  readsBack a := by
    obtain ⟨k, hk, hwritten⟩ := h a
    exact readsBack_tagged hnames hk hwritten
  ne_null _ := by simp [Codec.tagged]

/-- A record of one of several kinds is written as one of its kind. -/
lemma writtenAs_of_record {ρ : Type} {f : Fields ρ ρ} [d : f.Described] (name : String)
    {ofRecord : ρ → α} {r : ρ} (hkind : kind (ofRecord r) = (name, f.encode r))
    (htag : tag ∉ d.names) (hback : (record f).ReadsBack r) :
    WrittenAs tag kind (name, fun form j => ((record f).decode form j).map ofRecord)
      (ofRecord r) := by
  have hread : (record f).decode .tagged (.object (f.encode r)) = .ok r :=
    hback.decode_encode .tagged
  constructor
  · rw [hkind]
  · rw [hkind, d.encode_eq, d.names_written]
    exact htag
  · rw [hkind]
    exact hback.readable
  · simp only [hkind, hread, Except.map]

end VmDescriptor.Codec
