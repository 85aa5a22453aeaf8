import VmDescriptor.Proofs.Xml.Reading

/-!
Well-formed documents.

A document is well formed in the sense of XML 1.0 if its characters may occur in one and the
reader finds a single element in it, in which names and keys are names of the standard and no tag
has a key twice. The names of the standard are names to the reader, which is less strict.

Escaping neither adds nor hides a character that may not occur. So the document of a tree is well
formed and read back just when the tree has names of the standard, and values and texts without
such characters.
-/

namespace VmDescriptor.Xml

/-! ### Characters and names -/

/-- The character lies in one of the ranges, whose ends belong to them. -/
def inRanges (ranges : List (Nat × Nat)) (c : Char) : Bool :=
  ranges.any fun r => r.1 ≤ c.toNat && c.toNat ≤ r.2

/-- The characters of documents. -/
def charRanges : List (Nat × Nat) :=
  [(0x9, 0xA), (0xD, 0xD), (0x20, 0xD7FF), (0xE000, 0xFFFD), (0x10000, 0x10FFFF)]

/-- The characters that a name may begin with. -/
def nameStartRanges : List (Nat × Nat) :=
  [(0x3A, 0x3A), (0x41, 0x5A), (0x5F, 0x5F), (0x61, 0x7A), (0xC0, 0xD6), (0xD8, 0xF6),
    (0xF8, 0x2FF), (0x370, 0x37D), (0x37F, 0x1FFF), (0x200C, 0x200D), (0x2070, 0x218F),
    (0x2C00, 0x2FEF), (0x3001, 0xD7FF), (0xF900, 0xFDCF), (0xFDF0, 0xFFFD), (0x10000, 0xEFFFF)]

/-- The characters that a name may go on with. -/
def nameRanges : List (Nat × Nat) :=
  nameStartRanges ++ [(0x2D, 0x2E), (0x30, 0x39), (0xB7, 0xB7), (0x300, 0x36F), (0x203F, 0x2040)]

/-- The text consists of characters of documents. -/
def Legal (s : String) : Prop :=
  ∀ c ∈ s.toList, inRanges charRanges c

/-- The text consists of characters that a name may go on with. -/
def HasNameChars (s : String) : Prop :=
  ∀ c ∈ s.toList, inRanges nameRanges c

instance (s : String) : Decidable (Legal s) := List.decidableBAll _ _

instance (s : String) : Decidable (HasNameChars s) := List.decidableBAll _ _

/-- The text is a name of the standard. -/
def IsXmlName (s : String) : Prop :=
  s.toList.head?.any (inRanges nameStartRanges) ∧ HasNameChars s

instance (s : String) : Decidable (IsXmlName s) := inferInstanceAs (Decidable (_ ∧ _))

/-- The element has a name and keys of the standard. -/
def HasXmlNames (e : Node) : Prop :=
  (∀ name, e.name = some name → IsXmlName name) ∧ ∀ key ∈ e.attributes.map Prod.fst, IsXmlName key

/-- The element has no attribute twice. -/
def HasDistinctKeys (e : Node) : Prop :=
  (e.attributes.map Prod.fst).Nodup

/-- The element has values, and texts inside it, without characters that may not occur. -/
def HasLegalData (e : Node) : Prop :=
  (∀ a ∈ e.attributes, Legal a.2) ∧ ∀ s, .text s ∈ e.children → Legal s

/-- The text is a well-formed document with a declaration. -/
structure WellFormed (s : String) : Prop where
  legal : Legal s
  declaration : ∃ body, s = Piece.declaration.render ++ body
  element : ∃ name attributes children, read s = some [.element name attributes children] ∧
    (Node.element name attributes children).Every fun e => HasXmlNames e ∧ HasDistinctKeys e

lemma inRanges_of_subset {ranges wider : List (Nat × Nat)}
    (h : ∀ r ∈ ranges, ∃ r' ∈ wider, r'.1 ≤ r.1 ∧ r.2 ≤ r'.2) {c : Char}
    (hc : inRanges ranges c) : inRanges wider c := by
  simp only [inRanges, List.any_eq_true, Bool.and_eq_true, decide_eq_true_iff] at hc ⊢
  obtain ⟨r, hr, hlow, hhigh⟩ := hc
  obtain ⟨r', hr', hlow', hhigh'⟩ := h r hr
  exact ⟨r', hr', Nat.le_trans hlow' hlow, Nat.le_trans hhigh hhigh'⟩

lemma HasNameChars.legal {s : String} (h : HasNameChars s) : Legal s :=
  fun c hc => inRanges_of_subset (by decide) (h c hc)

lemma isNameChar_of_inRanges {c : Char} (hc : inRanges nameRanges c) : isNameChar c := by
  have hspace : isSpace c = false := by
    rw [Bool.eq_false_iff]
    intro hspace
    simp only [isSpace, Bool.or_eq_true, beq_iff_eq] at hspace
    rcases hspace with ((rfl | rfl) | rfl) | rfl <;> exact absurd hc (by decide)
  have hdelimiters : delimiters.all (!inRanges nameRanges ·) := by decide
  have hdelimiter : c ∉ delimiters := fun hmem => by
    simpa [hc] using List.all_eq_true.mp hdelimiters c hmem
  simp [isNameChar, hspace, hdelimiter]

lemma HasNameChars.all_isNameChar {s : String} (h : HasNameChars s) :
    ∀ c ∈ s.toList, isNameChar c :=
  fun c hc => isNameChar_of_inRanges (h c hc)

/-- Names of the standard are names to the reader. -/
lemma IsXmlName.isName {s : String} (h : IsXmlName s) : IsName s := by
  refine ⟨?_, h.2.all_isNameChar⟩
  rintro rfl
  exact absurd h (by decide)

lemma HasXmlNames.hasNames {e : Node} (h : HasXmlNames e) : HasNames e :=
  ⟨fun name hname => (h.1 name hname).isName, fun key hkey => (h.2 key hkey).isName⟩

lemma shallow_hasXmlNames : Shallow HasXmlNames := fun _ _ _ _ => Iff.rfl

lemma shallow_hasDistinctKeys : Shallow HasDistinctKeys := fun _ _ _ _ => Iff.rfl

lemma every_and {P Q : Node → Prop} {n : Node} :
    (n.Every fun e => P e ∧ Q e) ↔ n.Every P ∧ n.Every Q := by
  simp only [Node.Every, forall₂_and]

/-! ### Legal markup -/

@[simp] lemma legal_append {s t : String} : Legal (s ++ t) ↔ Legal s ∧ Legal t := by
  simp [Legal, or_imp, forall_and]

lemma legal_join {ss : List String} : Legal (String.join ss) ↔ ∀ s ∈ ss, Legal s := by
  induction ss with
  | nil => simp [Legal]
  | cons s rest ih => rw [String.join_cons, legal_append, ih, List.forall_mem_cons]

/-- Entities are legal, and so is what has none just when it is itself. -/
lemma legal_escapeChar {c : Char} :
    (∀ d ∈ escapeChar c, inRanges charRanges d) ↔ inRanges charRanges c := by
  by_cases hplain : escapeChar c = [c]
  · simp [hplain]
  · have hentity {cs : List Char} (hcs : cs.all (inRanges charRanges))
        (hc : inRanges charRanges c) :
        (∀ d ∈ cs, inRanges charRanges d) ↔ inRanges charRanges c :=
      iff_of_true (List.all_eq_true.mp hcs) hc
    unfold escapeChar at hplain ⊢
    simp only [beq_iff_eq] at hplain ⊢
    split_ifs at hplain ⊢ with hlt hgt hamp hapos hquot
    · subst hlt
      exact hentity (by decide) (by decide)
    · subst hgt
      exact hentity (by decide) (by decide)
    · subst hamp
      exact hentity (by decide) (by decide)
    · subst hapos
      exact hentity (by decide) (by decide)
    · subst hquot
      exact hentity (by decide) (by decide)
    · exact absurd rfl hplain

lemma legal_escape {s : String} : Legal (escape s) ↔ Legal s := by
  have hchars (cs : List Char) : (∀ d ∈ cs.flatMap escapeChar, inRanges charRanges d) ↔
      ∀ c ∈ cs, inRanges charRanges c := by
    simp only [List.mem_flatMap, forall_exists_index, and_imp]
    exact ⟨fun h c hc => legal_escapeChar.mp fun d hd => h d c hc hd,
      fun h d c hc hd => legal_escapeChar.mpr (h c hc) d hd⟩
  simpa [Legal, escape] using hchars s.toList

/-- All strings of the element itself are legal. -/
def HasLegalStrings (e : Node) : Prop :=
  (∀ name, e.name = some name → Legal name) ∧ (∀ a ∈ e.attributes, Legal a.1) ∧ HasLegalData e

lemma legal_tag {tag : Tag} :
    Legal tag.text ↔ Legal tag.name ∧ ∀ a ∈ tag.attributes, Legal a.1 ∧ Legal a.2 := by
  have hattribute (a : String × String) : Legal (Tag.attributeText a) ↔ Legal a.1 ∧ Legal a.2 := by
    have hspace : Legal " " := by decide
    have hquotes : Legal "=\x22" ∧ Legal "\x22" := by decide
    simp only [Tag.attributeText, legal_append, legal_escape, hspace, hquotes, true_and, and_true]
  rw [Tag.text, legal_append, legal_join, List.forall_mem_map]
  simp only [hattribute]

/-- All pieces of markup are legal. -/
def LegalPieces (ps : List Piece) : Prop :=
  ∀ p ∈ ps, Legal p.render

@[simp] lemma legalPieces_cons {p : Piece} {ps : List Piece} :
    LegalPieces (p :: ps) ↔ Legal p.render ∧ LegalPieces ps := List.forall_mem_cons

@[simp] lemma legalPieces_append {ps qs : List Piece} :
    LegalPieces (ps ++ qs) ↔ LegalPieces ps ∧ LegalPieces qs := List.forall_mem_append

@[simp] lemma legalPieces_nil : LegalPieces [] := by simp [LegalPieces]

lemma legal_render :
    (∀ tag, Legal (Piece.start tag).render ↔ Legal tag.text) ∧
      (∀ tag, Legal (Piece.empty tag).render ↔ Legal tag.text) ∧
      (∀ name, Legal (Piece.close name).render ↔ Legal name) ∧
      ∀ s, Legal (Piece.text s).render ↔ Legal s := by
  have hends : Legal "<" ∧ Legal ">" ∧ Legal "</" ∧ Legal "/>" := by decide
  simp [Piece.render, legal_escape, hends]

lemma hasLegalStrings_element {name : String} {attributes : List (String × String)}
    {children : List Node} :
    HasLegalStrings (.element name attributes children) ↔
      Legal (Tag.text ⟨name, attributes⟩) ∧ ∀ s, .text s ∈ children → Legal s := by
  rw [legal_tag]
  simp [HasLegalStrings, HasLegalData, Node.name, Node.attributes, Node.children, forall_and,
    and_assoc]

mutual

/-- The markup of an element is legal just when all strings inside it are. -/
theorem legal_element : ∀ (name : String) (attributes : List (String × String))
    (children : List Node), LegalPieces (Node.element name attributes children).pieces ↔
      (Node.element name attributes children).Every HasLegalStrings
  | name, attributes, [] => by
    rw [every_element, hasLegalStrings_element]
    simp [Node.pieces, legal_render.2.1]
  | name, attributes, n :: rest => by
    have hname (h : Legal (Tag.text ⟨name, attributes⟩)) : Legal name := (legal_tag.mp h).1
    have hpieces : (Node.element name attributes (n :: rest)).pieces =
        .start ⟨name, attributes⟩ :: (piecesOf (n :: rest) ++ [.close name]) := by
      simp [Node.pieces, piecesOf]
    rw [every_element, hasLegalStrings_element, hpieces, legalPieces_cons, legalPieces_append,
      legalPieces_cons, legal_render.1, legal_render.2.2.1, legal_piecesOf (n :: rest)]
    constructor
    · exact fun ⟨htag, ⟨hchildren, htexts⟩, _⟩ => ⟨⟨htag, htexts⟩, hchildren⟩
    · exact fun ⟨⟨htag, htexts⟩, hchildren⟩ =>
        ⟨htag, ⟨hchildren, htexts⟩, hname htag, legalPieces_nil⟩

theorem legal_piecesOf : ∀ ns : List Node,
    LegalPieces (piecesOf ns) ↔ EveryIn HasLegalStrings ns ∧ ∀ s, .text s ∈ ns → Legal s
  | [] => by simp [piecesOf]
  | .text s :: rest => by
    rw [piecesOf, legalPieces_append, legal_piecesOf rest]
    simp [Node.pieces, legal_render.2.2.2, or_imp, forall_and, and_left_comm]
  | .element name attributes children :: rest => by
    rw [piecesOf, legalPieces_append, legal_piecesOf rest, legal_element]
    simp [and_assoc]

end

/-! ### Documents -/

lemma joinTexts_element (name : String) (attributes : List (String × String))
    (children : List Node) :
    joinTexts [.element name attributes children] =
      [(Node.element name attributes children).joined] := by
  rw [joinTexts, joinedAfter, joinedAfter]
  · rfl
  · intro _ h
    cases h

section

variable {name : String} {attributes : List (String × String)} {children : List Node}
  {text : String}

/-- **A document is read back just when it can be.** -/
theorem read_document_iff (htext : (Node.element name attributes children).document = .ok text) :
    read text = some [(Node.element name attributes children).joined] ↔
      (Node.element name attributes children).Every HasNames := by
  have hread := read_markup_iff [.element name attributes children] (.inr rfl)
  rw [Node.document_eq, Except.ok.injEq] at htext
  rw [joinTexts_element, piecesOf_singleton] at hread
  rw [← htext]
  simpa using hread

/-- **A document is well formed and read back just when** the tree has names of the standard and
no values and texts with characters that may not occur. -/
theorem wellFormed_document_iff
    (htext : (Node.element name attributes children).document = .ok text)
    (hkeys : (Node.element name attributes children).Every HasDistinctKeys) :
    WellFormed text ∧ read text = some [(Node.element name attributes children).joined] ↔
      (Node.element name attributes children).Every HasXmlNames ∧
        (Node.element name attributes children).Every HasLegalData := by
  have hrendered : text = String.join
      ((.declaration :: (Node.element name attributes children).pieces).map Piece.render) :=
    (Except.ok.inj ((Node.document_eq _).symm.trans htext)).symm
  have hlegal : Legal text ↔ (Node.element name attributes children).Every HasLegalStrings := by
    have hdeclaration : Legal Piece.declaration.render := by decide
    rw [hrendered, legal_join, List.forall_mem_map]
    exact legalPieces_cons.trans ((and_iff_right hdeclaration).trans (legal_element _ _ _))
  rw [read_document_iff htext]
  constructor
  · rintro ⟨hwell, hnames⟩
    obtain ⟨name', attributes', children', hread, hevery⟩ := hwell.element
    rw [(read_document_iff htext).mpr hnames, Option.some.injEq, List.singleton_inj] at hread
    rw [← hread, every_and] at hevery
    exact ⟨(every_joined shallow_hasXmlNames _).mp hevery.1,
      (hlegal.mp hwell.legal).imp fun _ he => he.2.2⟩
  · rintro ⟨hnames, hdata⟩
    have hread := (read_document_iff htext).mpr (hnames.imp fun _ => HasXmlNames.hasNames)
    refine ⟨⟨hlegal.mpr ?_, ⟨_, hrendered.trans (by rw [List.map_cons, String.join_cons])⟩,
      name, attributes, joinedAfter "" children, hread, ?_⟩,
      hnames.imp fun _ => HasXmlNames.hasNames⟩
    · refine (every_and.mpr ⟨hnames, hdata⟩).imp fun e he => ⟨?_, ?_, he.2⟩
      · exact fun name hname => (he.1.1 name hname).2.legal
      · exact fun a ha => (he.1.2 a.1 (List.mem_map_of_mem ha)).2.legal
    · exact every_and.mpr ⟨(every_joined shallow_hasXmlNames _).mpr hnames,
        (every_joined shallow_hasDistinctKeys _).mpr hkeys⟩

end

end VmDescriptor.Xml
