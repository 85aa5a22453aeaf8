import VmDescriptor.Codec.Record
import VmDescriptor.Proofs.Codec.Laws

/-!
Records that were read are read back from their objects.

A description of fields reads one value for each field and makes of them what it reads. So the
description of a whole record splits into its fields, and what is to be shown of a record type
is that its record is made of the values of its own fields, and that no two fields have one name.
-/

namespace VmDescriptor

namespace Fields

variable {ρ α β : Type}

/-! ### Occurrences of names -/

lemma occurrences_go_of_notMem {name : String} {fields : List (Json.Name × Json)}
    (h : name ∉ fields.map (·.1.text)) (place : Nat) : occurrences.go name place fields = [] := by
  induction fields generalizing place with
  | nil => rfl
  | cons e rest ih =>
    rw [List.map_cons, List.mem_cons, not_or] at h
    have hne : (e.1.text == name) = false := beq_eq_false_iff_ne.mpr (Ne.symm h.1)
    simp only [occurrences.go, hne, Bool.false_eq_true, if_false, ih h.2]

/-- The object writes the name of a field once, and with its value. -/
def Carries (fields : List (Json.Name × Json)) (e : Json.Name × Json) : Prop :=
  ∃ place, occurrences e.1.text fields = [(place, e.2)]

lemma exists_occurrences_go {fields : List (Json.Name × Json)} {e : Json.Name × Json}
    (hnames : (fields.map (·.1.text)).Nodup) (he : e ∈ fields) (place : Nat) :
    ∃ place', occurrences.go e.1.text place fields = [(place', e.2)] := by
  induction fields generalizing place with
  | nil => cases he
  | cons e' rest ih =>
    rw [List.map_cons, List.nodup_cons] at hnames
    rcases List.mem_cons.mp he with rfl | he
    · refine ⟨place, ?_⟩
      simp only [occurrences.go, beq_self_eq_true, if_true,
        occurrences_go_of_notMem hnames.1 (place + 1)]
    · have hne : (e'.1.text == e.1.text) = false := by
        refine beq_eq_false_iff_ne.mpr fun heq => hnames.1 ?_
        rw [heq]
        exact List.mem_map_of_mem he
      simp only [occurrences.go, hne, Bool.false_eq_true, if_false]
      exact ih hnames.2 he (place + 1)

lemma carries_of_mem {fields : List (Json.Name × Json)} {e : Json.Name × Json}
    (hnames : (fields.map (·.1.text)).Nodup) (he : e ∈ fields) : Carries fields e :=
  exists_occurrences_go hnames he 0

/-! ### The values of fields -/

/-- What a description reads, taken apart into the values of its fields. -/
class Described (f : Fields ρ α) where
  /-- One value for each field. -/
  Values : Type
  names : List String
  /-- The fields as they are written. -/
  written : Values → List (Json.Name × Json)
  /-- The values of the fields of a record. -/
  view : ρ → Values
  /-- What the description makes of the values. -/
  build : Values → α
  /-- Whether each value is read back. -/
  Settled : Values → Prop
  encode_eq : ∀ r, f.encode r = written (view r)
  names_written : ∀ v, (written v).map (·.1.text) = names
  readable_written : ∀ {v}, Settled v → ∀ e ∈ written v, e.2.isReadable
  decode_written : ∀ {v}, Settled v → ∀ {form fields}, (∀ e ∈ written v, Carries fields e) →
    f.decode form fields = .ok (build v)
  exists_of_decode : ∀ {form fields a}, f.decode form fields = .ok a →
    ∃ v, Settled v ∧ build v = a
  exists_of_decodeItems : ∀ {form items p}, f.decodeItems form items = .ok p →
    ∃ v, Settled v ∧ build v = p.1

instance (a : α) : (Fields.pure a : Fields ρ α).Described where
  Values := Unit
  names := []
  written _ := []
  view _ := ()
  build _ := a
  Settled _ := True
  encode_eq _ := rfl
  names_written _ := rfl
  readable_written _ _ h := absurd h List.not_mem_nil
  decode_written _ _ _ _ := rfl
  exists_of_decode h := ⟨(), trivial, Except.ok.inj h⟩
  exists_of_decodeItems h := ⟨(), trivial, congrArg Prod.fst (Except.ok.inj h)⟩

lemma earlier_eq_ok_iff {f : Except Misplaced (α → β)} {a : Except Misplaced α} {b : β} :
    earlier f a = .ok b ↔ ∃ g x, f = .ok g ∧ a = .ok x ∧ g x = b := by
  cases f <;> cases a <;> simp [earlier]

instance {f : Fields ρ (α → β)} {a : Fields ρ α} [df : f.Described] [da : a.Described] :
    (Fields.seq f a).Described where
  Values := df.Values × da.Values
  names := df.names ++ da.names
  written v := df.written v.1 ++ da.written v.2
  view r := (df.view r, da.view r)
  build v := df.build v.1 (da.build v.2)
  Settled v := df.Settled v.1 ∧ da.Settled v.2
  encode_eq r := by rw [← df.encode_eq, ← da.encode_eq]; rfl
  names_written v := by rw [List.map_append, df.names_written, da.names_written]
  readable_written h e he := by
    rcases List.mem_append.mp he with he | he
    · exact df.readable_written h.1 e he
    · exact da.readable_written h.2 e he
  decode_written h form fields hcarries := by
    -- Both halves read the whole object, which carries the fields of either.
    rw [List.forall_mem_append] at hcarries
    exact earlier_eq_ok_iff.mpr
      ⟨_, _, df.decode_written h.1 hcarries.1, da.decode_written h.2 hcarries.2, rfl⟩
  exists_of_decode h := by
    obtain ⟨g, x, hg, hx, rfl⟩ := earlier_eq_ok_iff.mp h
    obtain ⟨v, hv, rfl⟩ := df.exists_of_decode hg
    obtain ⟨w, hw, rfl⟩ := da.exists_of_decode hx
    exact ⟨(v, w), ⟨hv, hw⟩, rfl⟩
  exists_of_decodeItems h := by
    obtain ⟨⟨g, items⟩, hg, h⟩ := bind_eq_ok_iff.mp h
    obtain ⟨⟨x, rest⟩, hx, h⟩ := bind_eq_ok_iff.mp h
    obtain ⟨v, hv, rfl⟩ := df.exists_of_decodeItems hg
    obtain ⟨w, hw, rfl⟩ := da.exists_of_decodeItems hx
    cases h
    exact ⟨(v, w), ⟨hv, hw⟩, rfl⟩

instance {f : Fields ρ (α → β)} {a : Fields ρ α} [f.Described] [a.Described] :
    (f <*> a).Described :=
  inferInstanceAs (Fields.seq f a).Described

instance {g : α → β} {a : Fields ρ α} [a.Described] : (g <$> a).Described :=
  inferInstanceAs (Fields.seq (Fields.pure g) a).Described

section

variable {name : String} {c : Codec α}

lemma decode_field {get : ρ → α} {missing : Option α} {form : Form}
    {fields : List (Json.Name × Json)} {a : α}
    (h : (field name get c missing).decode form fields = .ok a) :
    a ∈ missing ∨ ∃ j, c.decode form j = .ok a := by
  simp only [field] at h
  split at h
  next =>
    split at h
    next => exact .inl (congrArg some (Except.ok.inj h))
    next => cases h
  next place j others _ =>
    cases ha : c.decode form j with
    | error _ => simp [ha] at h
    | ok a' =>
      cases others with
      | nil =>
        simp only [ha, Except.ok.injEq] at h
        exact .inr ⟨j, h ▸ ha⟩
      | cons _ _ => simp [ha] at h

lemma decodeItems_field {get : ρ → α} {missing : Option α} {form : Form} {items : List Json}
    {p : α × List Json} (h : (field name get c missing).decodeItems form items = .ok p) :
    p.1 ∈ missing ∨ ∃ j, c.decode form j = .ok p.1 := by
  cases items with
  | nil =>
    simp only [field] at h
    split at h
    next => exact .inl (congrArg (some ∘ Prod.fst) (Except.ok.inj h))
    next => cases h
  | cons j rest =>
    obtain ⟨a, ha, rfl⟩ := map_eq_ok_iff.mp h
    exact .inr ⟨j, ha⟩

/-- A field has its value alone. -/
@[reducible] def Described.field (get : ρ → α) {missing : Option α} (hc : c.Stable)
    (hmissing : ∀ a ∈ missing, c.ReadsBack a) : (field name get c missing).Described where
  Values := α
  names := [name]
  written a := [(name, c.encode a)]
  view := get
  build := id
  Settled := c.ReadsBack
  encode_eq _ := rfl
  names_written _ := rfl
  readable_written h e he := by
    rw [List.mem_singleton.mp he]
    exact h.readable
  decode_written {a} h form fields hcarries := by
    obtain ⟨place, hplace⟩ := hcarries _ List.mem_cons_self
    simp only [Fields.field, hplace, h.decode_encode, id]
  exists_of_decode {form fields a} h := by
    refine ⟨a, ?_, rfl⟩
    rcases decode_field h with h | ⟨j, hj⟩
    · exact hmissing a h
    · exact hc.readsBack hj
  exists_of_decodeItems {form items p} h := by
    refine ⟨p.1, ?_, rfl⟩
    rcases decodeItems_field h with h | ⟨j, hj⟩
    · exact hmissing p.1 h
    · exact hc.readsBack hj

instance {get : ρ → α} [hc : c.Stable] : (required name get c).Described :=
  .field get hc fun _ h => by cases h

instance {get : ρ → α} {default : α} [hc : c.Stable] [hdefault : c.ReadsBack default] :
    (withDefault name get c default).Described :=
  .field get hc fun _ h => Option.some.inj h ▸ hdefault

instance {get : ρ → Option α} [c.Lawful] : (optional name get c).Described :=
  .field get inferInstance fun _ h => Option.some.inj h ▸ inferInstance

end

/-! ### Fields of which all values are read back -/

/-- All values of the fields are read back. -/
class Faithful (f : Fields ρ α) [d : f.Described] : Prop where
  settled : ∀ v, d.Settled v

instance {a : α} : (Fields.pure a : Fields ρ α).Faithful := ⟨fun _ => trivial⟩

instance {f : Fields ρ (α → β)} {a : Fields ρ α} [f.Described] [a.Described] [hf : f.Faithful]
    [ha : a.Faithful] : (f <*> a).Faithful :=
  ⟨fun v => ⟨hf.settled v.1, ha.settled v.2⟩⟩

instance {g : α → β} {a : Fields ρ α} [a.Described] [ha : a.Faithful] : (g <$> a).Faithful :=
  ⟨fun v => ⟨trivial, ha.settled v.2⟩⟩

instance {name : String} {get : ρ → α} {c : Codec α} [hc : c.Faithful] :
    (required name get c).Faithful :=
  ⟨hc.readsBack⟩

instance {name : String} {get : ρ → α} {c : Codec α} {default : α} [hc : c.Faithful] :
    (withDefault name get c default).Faithful :=
  ⟨hc.readsBack⟩

instance {name : String} {get : ρ → Option α} {c : Codec α} [c.Faithful] :
    (optional name get c).Faithful :=
  ⟨fun a => inferInstanceAs (c.option.ReadsBack a)⟩

/-! ### Objects and arrays -/

section

variable {f : Fields ρ α} [d : f.Described]

lemma ofObject_written {v : d.Values} (hv : d.Settled v) {form : Form}
    {fields : List (Json.Name × Json)} (h : ∀ e ∈ d.written v, Carries fields e) :
    f.ofObject form fields = .ok (d.build v) := by
  rw [ofObject, d.decode_written hv h]
  rfl

lemma exists_of_ofObject {form : Form} {fields : List (Json.Name × Json)} {a : α}
    (h : f.ofObject form fields = .ok a) : ∃ v, d.Settled v ∧ d.build v = a :=
  d.exists_of_decode (mapError_eq_ok_iff.mp h)

lemma exists_of_ofArray {form : Form} {items : List Json} {a : α}
    (h : f.ofArray form items = .ok a) : ∃ v, d.Settled v ∧ d.build v = a := by
  obtain ⟨⟨a', rest⟩, ha, h⟩ := bind_eq_ok_iff.mp h
  dsimp only at h
  split at h
  next =>
    cases h
    exact d.exists_of_decodeItems ha
  next => cases h

end

end Fields

namespace Codec

variable {ρ : Type} {f : Fields ρ ρ} [d : f.Described]

lemma readsBack_record (hview : ∀ v, d.view (d.build v) = v) (hnames : d.names.Nodup)
    {v : d.Values} (hv : d.Settled v) : (record f).ReadsBack (d.build v) := by
  have hencode : f.encode (d.build v) = d.written v := by rw [d.encode_eq, hview]
  constructor
  · intro form
    have hobject : f.ofObject form (d.written v) = .ok (d.build v) :=
      Fields.ofObject_written hv fun e he =>
        Fields.carries_of_mem (d.names_written v ▸ hnames) he
    rw [← hencode] at hobject
    exact hobject
  · have hreadable := Json.fieldsReadable_iff.mpr (d.readable_written hv)
    rw [← hencode] at hreadable
    exact hreadable

/-- All records are read back if all values of their fields are. -/
theorem Faithful.record [hf : f.Faithful] (hview : ∀ v, d.view (d.build v) = v)
    (hbuild : ∀ r, d.build (d.view r) = r) (hnames : d.names.Nodup) : (record f).Faithful where
  readsBack r := hbuild r ▸ readsBack_record hview hnames (hf.settled (d.view r))
  ne_null _ := by simp [Codec.record]

/-- **A record that was read is read back** if it is made of the values of its own fields and
no two fields have one name. -/
theorem Lawful.record (hview : ∀ v, d.view (d.build v) = v) (hnames : d.names.Nodup) :
    (record f).Lawful where
  readsBack {form j r} h := by
    have hvalues : ∃ v, d.Settled v ∧ d.build v = r := by
      cases j with
      | object fields => exact Fields.exists_of_ofObject h
      | array items => exact Fields.exists_of_ofArray h
      | _ => cases h
    obtain ⟨v, hv, rfl⟩ := hvalues
    exact readsBack_record hview hnames hv
  ne_null _ := by simp [Codec.record]

end Codec

end VmDescriptor
