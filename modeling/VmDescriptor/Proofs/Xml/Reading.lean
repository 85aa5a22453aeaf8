import Mathlib.Data.List.Basic
import VmDescriptor.Proofs.Xml.Reader

/-!
Reading undoes writing.

Escaped characters are read as they were before, in a text and in a value. So the reader goes
through the markup of a tree whose names it takes for names and has then added that tree, with
its texts joined, to what it had read before.

Whatever is read has such names. So markup is read as the trees that were written just when these
have names that the reader takes for names.
-/

namespace VmDescriptor.Xml

/-! ### Characters of markup -/

/-- The characters of pieces of markup. -/
def markup (pieces : List Piece) : List Char :=
  pieces.flatMap fun p => p.render.toList

lemma markup_append (ps qs : List Piece) : markup (ps ++ qs) = markup ps ++ markup qs :=
  List.flatMap_append

lemma toList_join (pieces : List Piece) :
    (String.join (pieces.map Piece.render)).toList = markup pieces := by
  rw [String.toList_join, List.flatMap_map]
  rfl

namespace Reader

variable {o : Outline} {cs : List Char}

/-- The run ends at a double quote, if at a quote at all. -/
def InWritten : Run → Prop
  | .text => True
  | .value _ _ quote => quote = '\x22'

lemma stepChars_of_escapeChar {run : Run} (hrun : InWritten run) {c : Char}
    (hc : escapeChar c = [c]) : stepChars o run cs c = some ⟨o, .chars run (c :: cs)⟩ := by
  have hne : c ≠ '<' ∧ c ≠ '>' ∧ c ≠ '&' ∧ c ≠ '\x22' := by
    refine ⟨?_, ?_, ?_, ?_⟩ <;>
    · rintro rfl
      exact absurd hc (by decide)
  obtain ⟨hlt, hgt, hamp, hquote⟩ := hne
  cases run with
  | text => simp [stepChars, hlt, hgt, hamp]
  | value tag key quote =>
    obtain rfl : quote = '\x22' := hrun
    simp [stepChars, hlt, hamp, hquote]

lemma run_escapeChar {run : Run} (hrun : InWritten run) (c : Char) :
    Reader.run ⟨o, .chars run cs⟩ (escapeChar c) = some ⟨o, .chars run (c :: cs)⟩ := by
  by_cases hplain : escapeChar c = [c]
  · have hstep : step ⟨o, .chars run cs⟩ c = some ⟨o, .chars run (c :: cs)⟩ :=
      stepChars_of_escapeChar hrun hplain
    rw [hplain, run_cons, hstep]
    rfl
  · unfold escapeChar at hplain ⊢
    simp only [beq_iff_eq] at hplain ⊢
    split_ifs at hplain ⊢ with hlt hgt hamp hapos hquot
    · subst hlt; rfl
    · subst hgt; rfl
    · subst hamp; rfl
    · subst hapos; rfl
    · subst hquot; rfl
    · exact absurd rfl hplain

/-- **Escaping is undone**, in a text and in a value. -/
theorem run_escape (run : Run) (hrun : InWritten run) (s : String) :
    Reader.run ⟨o, .chars run cs⟩ (escape s).toList =
      some ⟨o, .chars run (s.toList.reverse ++ cs)⟩ := by
  have hchars (ds : List Char) : ∀ cs, Reader.run ⟨o, .chars run cs⟩ (ds.flatMap escapeChar) =
      some ⟨o, .chars run (ds.reverse ++ cs)⟩ := by
    induction ds with
    | nil => exact fun _ => rfl
    | cons c ds ih =>
      intro cs
      rw [List.flatMap_cons, run_append, run_escapeChar hrun, Option.bind_some, ih]
      simp
  rw [escape, String.toList_ofList, hchars]

/-! ### Names and tags -/

/-- Characters of a name are taken one after the other wherever a name is read. -/
lemma run_name (place : List Char → Place)
    (hplace : ∀ name c, isNameChar c → step ⟨o, place name⟩ c = some ⟨o, place (c :: name)⟩)
    {ds : List Char} (hds : ∀ c ∈ ds, isNameChar c) (name : List Char) :
    Reader.run ⟨o, place name⟩ ds = some ⟨o, place (ds.reverse ++ name)⟩ := by
  induction ds generalizing name with
  | nil => rfl
  | cons c ds ih =>
    obtain ⟨hc, hds⟩ := List.forall_mem_cons.mp hds
    rw [run_cons, hplace name c hc, Option.bind_some, ih hds]
    simp

lemma isNameChar_ne {c : Char} (h : isNameChar c) : isSpace c = false ∧ c ∉ delimiters := by
  simpa [isNameChar] using h

/-- The name of a tag is read after its bracket. -/
lemma run_startName {s : String} (hs : IsName s) :
    Reader.run ⟨o, .opened⟩ s.toList = some ⟨o, .startName s.toList.reverse⟩ := by
  obtain ⟨hne, hchars⟩ := hs
  obtain ⟨c, ds, hcons⟩ := List.exists_cons_of_ne_nil (mt String.toList_eq_nil_iff.mp hne)
  rw [hcons] at hchars ⊢
  obtain ⟨hc, hds⟩ := List.forall_mem_cons.mp hchars
  have hslash : (c == '/') = false := by
    rw [beq_eq_false_iff_ne]
    rintro rfl
    exact absurd (isNameChar_ne hc).2 (by decide)
  have hfirst : step ⟨o, .opened⟩ c = some ⟨o, .startName [c]⟩ := by simp [step, hslash, hc]
  rw [run_cons, hfirst, Option.bind_some,
    run_name .startName (fun name c hc => by simp [step, hc]) hds]
  simp

/-- After a name and after a value, what is not part of a name is read alike. -/
lemma step_startName {s : String} {c : Char} (hc : isNameChar c = false) :
    step ⟨o, .startName s.toList.reverse⟩ c = stepTag o ⟨s, []⟩ c := by
  simp [step, hc]

lemma run_attribute {key value : String} (hkey : IsName key) {tag : Tag} {r : Reader}
    (hr : ∀ c, isNameChar c = false → r.step c = stepTag o tag c) :
    r.run (Tag.attributeText (key, value)).toList =
      some ⟨o, .valued { tag with attributes := tag.attributes ++ [(key, value)] }⟩ := by
  obtain ⟨hne, hchars⟩ := hkey
  obtain ⟨c, ds, hcons⟩ := List.exists_cons_of_ne_nil (mt String.toList_eq_nil_iff.mp hne)
  have hkeyList : ds.reverse ++ [c] = key.toList.reverse := by simp [hcons]
  have hspace : r.step ' ' = some ⟨o, .spaced tag⟩ := hr ' ' (by decide)
  rw [hcons] at hchars
  obtain ⟨hc, hds⟩ := List.forall_mem_cons.mp hchars
  have hfirst : step ⟨o, .spaced tag⟩ c = some ⟨o, .key tag [c]⟩ := by simp [step, hc]
  have hequals : step ⟨o, .key tag key.toList.reverse⟩ '=' = some ⟨o, .equals tag key⟩ := by
    simp [step, show isNameChar '=' = false by decide]
  have hvalue : Reader.run ⟨o, .chars (.value tag key '\x22') []⟩ (escape value).toList =
      some ⟨o, .chars (.value tag key '\x22') (value.toList.reverse ++ [])⟩ :=
    run_escape (.value tag key '\x22') rfl value
  have htext : (Tag.attributeText (key, value)).toList =
      ' ' :: c :: ds ++ '=' :: '\x22' :: (escape value).toList ++ ['\x22'] := by
    simp [Tag.attributeText, hcons]
  rw [htext, List.append_assoc, List.cons_append, List.cons_append, run_cons, hspace,
    Option.bind_some, run_cons, hfirst, Option.bind_some, run_append,
    run_name (.key tag) (fun name c hc => by simp [step, hc]) hds, Option.bind_some,
    hkeyList, List.cons_append, List.cons_append, run_cons, hequals, Option.bind_some, run_cons]
  have hquote : step ⟨o, .equals tag key⟩ '\x22' = some ⟨o, .chars (.value tag key '\x22') []⟩ :=
    rfl
  rw [hquote, Option.bind_some, run_append, hvalue]
  simp [step, stepChars]

lemma run_attributes {attributes : List (String × String)}
    (hkeys : ∀ key ∈ attributes.map Prod.fst, IsName key) :
    ∀ (tag : Tag) {r : Reader}, (∀ c, isNameChar c = false → r.step c = stepTag o tag c) →
      ∃ r', r.run (String.join (attributes.map Tag.attributeText)).toList = some r' ∧
        ∀ c, isNameChar c = false →
          r'.step c = stepTag o { tag with attributes := tag.attributes ++ attributes } c := by
  induction attributes with
  | nil => exact fun tag r hr => ⟨r, by simp, by simpa using hr⟩
  | cons a rest ih =>
    intro tag r hr
    obtain ⟨hkey, hrest⟩ := List.forall_mem_cons.mp hkeys
    obtain ⟨r', hrun, hr'⟩ := ih hrest { tag with attributes := tag.attributes ++ [a] }
      (r := ⟨o, .valued { tag with attributes := tag.attributes ++ [a] }⟩) fun _ _ => rfl
    refine ⟨r', ?_, by simpa using hr'⟩
    rw [List.map_cons, String.join_cons, String.toList_append, run_append,
      run_attribute hkey hr, Option.bind_some, hrun]

/-- A start tag is read up to its end. -/
lemma run_tag {tag : Tag} (hname : IsName tag.name)
    (hkeys : ∀ key ∈ tag.attributes.map Prod.fst, IsName key) {c : Char}
    (hc : isNameChar c = false) (rest : List Char) :
    Reader.run ⟨o, .opened⟩ (tag.text.toList ++ c :: rest) =
      (stepTag o tag c).bind fun r => r.run rest := by
  obtain ⟨r, hrun, hr⟩ := run_attributes (o := o) hkeys ⟨tag.name, []⟩
    (r := ⟨o, .startName tag.name.toList.reverse⟩) fun _ hc => step_startName hc
  rw [Tag.text, String.toList_append, List.append_assoc, run_append, run_startName hname,
    Option.bind_some, run_append, hrun, Option.bind_some, run_cons, hr c hc]
  rfl

/-! ### Trees -/

lemma run_start {tag : Tag} (hname : IsName tag.name)
    (hkeys : ∀ key ∈ tag.attributes.map Prod.fst, IsName key) :
    Reader.run ⟨o, .chars .text cs⟩ (Piece.start tag).render.toList =
      some ⟨(o.addText cs).push tag, .chars .text []⟩ := by
  have htext : (Piece.start tag).render.toList = '<' :: (tag.text.toList ++ ['>']) := by
    simp [Piece.render]
  have hopen : step ⟨o, .chars .text cs⟩ '<' = some ⟨o.addText cs, .opened⟩ := rfl
  rw [htext, run_cons, hopen, Option.bind_some, run_tag hname hkeys (by decide)]
  rfl

lemma run_empty {tag : Tag} (hname : IsName tag.name)
    (hkeys : ∀ key ∈ tag.attributes.map Prod.fst, IsName key) :
    Reader.run ⟨o, .chars .text cs⟩ (Piece.empty tag).render.toList =
      some ⟨(o.addText cs).add (.element tag.name tag.attributes []), .chars .text []⟩ := by
  have htext : (Piece.empty tag).render.toList = '<' :: (tag.text.toList ++ ['/', '>']) := by
    simp [Piece.render]
  have hopen : step ⟨o, .chars .text cs⟩ '<' = some ⟨o.addText cs, .opened⟩ := rfl
  rw [htext, run_cons, hopen, Option.bind_some, run_tag hname hkeys (by decide)]
  rfl

lemma run_close {name : String} (hname : IsName name) :
    Reader.run ⟨o, .chars .text cs⟩ (Piece.close name).render.toList =
      ((o.addText cs).pop? name).map fun o' => ⟨o', .chars .text []⟩ := by
  have htext : (Piece.close name).render.toList = '<' :: '/' :: (name.toList ++ ['>']) := by
    simp [Piece.render]
  have hopen : step ⟨o, .chars .text cs⟩ '<' = some ⟨o.addText cs, .opened⟩ := rfl
  have hslash : step ⟨o.addText cs, .opened⟩ '/' = some ⟨o.addText cs, .closeName []⟩ := rfl
  have hend : step ⟨o.addText cs, .closeName name.toList.reverse⟩ '>' =
      ((o.addText cs).pop? name).map fun o' => ⟨o', .chars .text []⟩ := by
    simp [step, show isNameChar '>' = false by decide]
  rw [htext, run_cons, hopen, Option.bind_some, run_cons, hslash, Option.bind_some, run_append,
    run_name .closeName (fun name c hc => by simp [step, hc]) hname.2,
    List.append_nil, Option.bind_some, run_cons, hend]
  simp

/-- The characters before an element make a text of their own. -/
lemma foldl_textNodes (o : Outline) (cs : List Char) (ns : List Node) :
    (textNodes (.ofList cs.reverse) ++ ns).foldl Outline.add o =
      ns.foldl Outline.add (o.addText cs) := by
  unfold textNodes Outline.addText
  by_cases h : cs = []
  · subst h
    simp
  · have hne : String.ofList cs.reverse ≠ "" := by
      rw [ne_eq, ← String.toList_eq_nil_iff]
      simpa using h
    simp [h, hne]

lemma pop?_push (tag : Tag) (ns : List Node) :
    (ns.foldl Outline.add (o.push tag)).pop? tag.name =
      some (o.add (.element tag.name tag.attributes ns)) := by
  rw [Outline.push, Outline.foldl_add]
  simp [Outline.pop?]

mutual

/-- **A tree is read back**: the reader adds an element with its texts joined, after the text
before it. -/
theorem run_element : ∀ (name : String) (attributes : List (String × String))
    (children : List Node), (Node.element name attributes children).Every HasNames →
    ∀ (o : Outline) (cs : List Char),
      Reader.run ⟨o, .chars .text cs⟩ (markup (Node.element name attributes children).pieces) =
        some ⟨(o.addText cs).add (Node.element name attributes children).joined,
          .chars .text []⟩
  | name, attributes, [], h, o, cs => by
    obtain ⟨⟨hname, hkeys⟩, -⟩ := every_element.mp h
    simp only [Node.pieces, markup, List.flatMap_singleton]
    exact run_empty (hname name rfl) hkeys
  | name, attributes, n :: rest, h, o, cs => by
    obtain ⟨⟨hname, hkeys⟩, hchildren⟩ := every_element.mp h
    have hname : IsName name := hname name rfl
    obtain ⟨o', cs', hrun, ho'⟩ :=
      run_piecesOf (n :: rest) hchildren ((o.addText cs).push ⟨name, attributes⟩) []
    have hpieces : markup (Node.element name attributes (n :: rest)).pieces =
        (Piece.start ⟨name, attributes⟩).render.toList ++
          (markup (piecesOf (n :: rest)) ++ (Piece.close name).render.toList) := by
      simp [Node.pieces, piecesOf, markup]
    rw [hpieces, run_append, run_start hname hkeys, Option.bind_some, run_append, hrun,
      Option.bind_some, run_close hname, ho', pop?_push]
    rfl

theorem run_piecesOf : ∀ (ns : List Node), EveryIn HasNames ns →
    ∀ (o : Outline) (cs : List Char), ∃ o' cs',
      Reader.run ⟨o, .chars .text cs⟩ (markup (piecesOf ns)) = some ⟨o', .chars .text cs'⟩ ∧
        o'.addText cs' = (joinedAfter (.ofList cs.reverse) ns).foldl Outline.add o
  | [], _, o, cs => by
    refine ⟨o, cs, rfl, ?_⟩
    have h := foldl_textNodes o cs []
    rw [List.append_nil] at h
    rw [joinedAfter, h]
    rfl
  | .text s :: rest, h, o, cs => by
    obtain ⟨o', cs', hrun, ho'⟩ :=
      run_piecesOf rest (everyIn_cons.mp h).2 o (s.toList.reverse ++ cs)
    refine ⟨o', cs', ?_, ?_⟩
    · have hpieces : markup (piecesOf (.text s :: rest)) =
          (escape s).toList ++ markup (piecesOf rest) := by
        simp [piecesOf, Node.pieces, markup, Piece.render]
      rw [hpieces, run_append, run_escape .text trivial, Option.bind_some, hrun]
    · rw [ho', joinedAfter]
      simp
  | .element name attributes children :: rest, h, o, cs => by
    obtain ⟨hn, hrest⟩ := everyIn_cons.mp h
    have helement := run_element name attributes children hn o cs
    obtain ⟨o', cs', hrun, ho'⟩ := run_piecesOf rest hrest
      ((o.addText cs).add (Node.element name attributes children).joined) []
    refine ⟨o', cs', ?_, ?_⟩
    · rw [piecesOf, markup_append, run_append, helement, Option.bind_some, hrun]
    · rw [ho', joinedAfter, foldl_textNodes]
      · rfl
      · exact fun _ => nofun

end

end Reader

/-! ### Documents -/

/-- What the reader gets through begins with no declaration. -/
lemma withoutDeclaration_of_run {cs : List Char} {r : Reader}
    (h : Reader.initial.run cs = some r) : withoutDeclaration cs = cs := by
  unfold withoutDeclaration
  split
  next => cases h
  next => rfl

lemma withoutDeclaration_declaration (cs : List Char) :
    withoutDeclaration (Piece.declaration.render.toList ++ cs) = cs := rfl

/-- **Markup is read back** as the trees with their texts joined, with a declaration before it or
without. -/
theorem read_markup {ns : List Node} (h : EveryIn HasNames ns) {head : List Piece}
    (hhead : head = [] ∨ head = [.declaration]) :
    read (String.join ((head ++ piecesOf ns).map Piece.render)) = some (joinTexts ns) := by
  obtain ⟨o, cs, hrun, ho⟩ := Reader.run_piecesOf ns h .empty []
  have hfoldl (ns : List Node) (trees : List Node) :
      ns.foldl Outline.add ⟨[], trees⟩ = ⟨[], trees ++ ns⟩ := by
    induction ns generalizing trees with
    | nil => simp
    | cons n rest ih => simp [Outline.add, ih]
  have ho : o.addText cs = ⟨[], joinTexts ns⟩ := by
    rw [ho, Outline.empty, hfoldl]
    rfl
  have hframes : o.frames = [] := by
    unfold Outline.addText at ho
    split at ho
    · rw [ho]
    · cases hframes : o.frames with
      | nil => rfl
      | cons f outer => simp [Outline.add, hframes] at ho
  have hbody : withoutDeclaration (markup (head ++ piecesOf ns)) = markup (piecesOf ns) := by
    rcases hhead with rfl | rfl
    · exact withoutDeclaration_of_run hrun
    · exact withoutDeclaration_declaration _
  have htrees : Reader.trees? ⟨o, .chars .text cs⟩ = some (o.addText cs).trees := by
    simp [Reader.trees?, hframes]
  rw [read, toList_join, hbody, Reader.initial, hrun, Option.bind_some, htrees, ho]

/-! ### What is read has names -/

namespace Outline

/-- Everything in the outline has names. -/
def Named (o : Outline) : Prop :=
  (∀ f ∈ o.frames, (Node.element f.name f.attributes f.children).Every HasNames) ∧
    EveryIn HasNames o.trees

lemma Named.add {o : Outline} (h : o.Named) {n : Node} (hn : n.Every HasNames) :
    (o.add n).Named := by
  obtain ⟨hframes, htrees⟩ := h
  unfold Outline.add
  split
  next hnil => exact ⟨by simp [hnil], everyIn_append.mpr ⟨htrees, by simpa using hn⟩⟩
  next f outer hcons =>
    rw [hcons, List.forall_mem_cons, every_element] at hframes
    refine ⟨List.forall_mem_cons.mpr ⟨every_element.mpr ⟨hframes.1.1, ?_⟩, hframes.2⟩, htrees⟩
    exact everyIn_append.mpr ⟨hframes.1.2, by simpa using hn⟩

lemma Named.addText {o : Outline} (h : o.Named) (cs : List Char) : (o.addText cs).Named := by
  unfold Outline.addText
  split
  · exact h
  · exact h.add every_text

lemma Named.push {o : Outline} (h : o.Named) (tag : Tag)
    (htag : HasNames (.element tag.name tag.attributes [])) : (o.push tag).Named :=
  ⟨List.forall_mem_cons.mpr ⟨every_element.mpr ⟨htag, everyIn_nil⟩, h.1⟩, h.2⟩

lemma Named.pop? {o o' : Outline} (h : o.Named) {name : String} (ho' : o.pop? name = some o') :
    o'.Named := by
  unfold Outline.pop? at ho'
  split at ho'
  next f outer hcons =>
    split at ho'
    · cases ho'
      have hframes := h.1
      rw [hcons, List.forall_mem_cons] at hframes
      exact Named.add (o := { o with frames := outer }) ⟨hframes.2, h.2⟩ hframes.1
    · cases ho'
  next => cases ho'

end Outline

/-- The characters, which come last first, are those of a name. -/
def NameChars (cs : List Char) : Prop :=
  cs ≠ [] ∧ ∀ c ∈ cs, isNameChar c

lemma NameChars.cons {c : Char} {cs : List Char} (hc : isNameChar c)
    (hcs : ∀ c ∈ cs, isNameChar c) : NameChars (c :: cs) :=
  ⟨List.cons_ne_nil c cs, List.forall_mem_cons.mpr ⟨hc, hcs⟩⟩

lemma NameChars.isName {cs : List Char} (h : NameChars cs) : IsName (.ofList cs.reverse) := by
  refine ⟨?_, by simpa using h.2⟩
  rw [ne_eq, ← String.toList_eq_nil_iff]
  simpa using h.1

namespace Reader

/-- A tag has names. -/
def NamedTag (tag : Tag) : Prop :=
  HasNames (.element tag.name tag.attributes [])

/-- What a run of characters is part of has names. -/
def NamedRun : Run → Prop
  | .text => True
  | .value tag key _ => NamedTag tag ∧ IsName key

/-- What the reader is in the middle of has names. -/
def NamedPlace : Place → Prop
  | .chars run _ | .reference run _ _ => NamedRun run
  | .opened | .closeName _ => True
  | .startName name => NameChars name
  | .spaced tag | .valued tag | .slash tag => NamedTag tag
  | .key tag key => NamedTag tag ∧ NameChars key
  | .equals tag key => NamedTag tag ∧ IsName key

/-- Everything that has been read has names. -/
structure Named (r : Reader) : Prop where
  outline : r.outline.Named
  place : NamedPlace r.place

variable {o : Outline} {c : Char} {r r' : Reader}

lemma named_stepTag (ho : o.Named) {tag : Tag} (htag : NamedTag tag)
    (h : stepTag o tag c = some r') : r'.Named := by
  unfold stepTag at h
  split_ifs at h <;> cases h
  · exact ⟨ho, htag⟩
  · exact ⟨ho, htag⟩
  · exact ⟨ho.push tag htag, trivial⟩

lemma named_stepChars (ho : o.Named) {run : Run} (hrun : NamedRun run) {cs : List Char}
    (h : stepChars o run cs c = some r') : r'.Named := by
  cases run with
  | text =>
    simp only [stepChars] at h
    split_ifs at h <;> cases h
    · exact ⟨ho, trivial⟩
    · exact ⟨ho.addText cs, trivial⟩
    · exact ⟨ho, trivial⟩
  | value tag key quote =>
    obtain ⟨⟨hname, hkeys⟩, hkey⟩ := hrun
    simp only [stepChars] at h
    split_ifs at h <;> cases h
    · exact ⟨ho, ⟨hname, hkeys⟩, hkey⟩
    · refine ⟨ho, hname, fun key' hkey' => ?_⟩
      rw [Node.attributes, List.map_append, List.mem_append] at hkey'
      rcases hkey' with hkey' | hkey'
      · exact hkeys key' hkey'
      · exact List.mem_singleton.mp hkey' ▸ hkey
    · exact ⟨ho, ⟨hname, hkeys⟩, hkey⟩

/-- A character after a named place leaves a named place. -/
lemma named_step (hr : r.Named) (h : r.step c = some r') : r'.Named := by
  obtain ⟨o, place⟩ := r
  obtain ⟨ho, hplace⟩ := hr
  cases place with
  | chars run cs => exact named_stepChars ho hplace h
  | reference run cs name =>
    simp only [step] at h
    split_ifs at h
    · obtain ⟨e, -, rfl⟩ := Option.map_eq_some_iff.mp h
      exact ⟨ho, hplace⟩
    · cases h
      exact ⟨ho, hplace⟩
  | opened =>
    simp only [step] at h
    split_ifs at h with hslash hc <;> cases h
    · exact ⟨ho, trivial⟩
    · exact ⟨ho, .cons hc (by simp)⟩
  | startName name =>
    simp only [step] at h
    split_ifs at h with hc
    · cases h
      exact ⟨ho, .cons hc hplace.2⟩
    · have htag : NamedTag ⟨.ofList name.reverse, []⟩ :=
        ⟨fun name' hname' => Option.some.inj hname' ▸ hplace.isName, by simp [Node.attributes]⟩
      exact named_stepTag ho htag h
  | spaced tag =>
    simp only [step] at h
    split_ifs at h with hc
    · cases h
      exact ⟨ho, hplace, .cons hc (by simp)⟩
    · exact named_stepTag ho hplace h
  | key tag key =>
    simp only [step] at h
    split_ifs at h with hc hequals <;> cases h
    · exact ⟨ho, hplace.1, .cons hc hplace.2.2⟩
    · exact ⟨ho, hplace.1, hplace.2.isName⟩
  | equals tag key =>
    simp only [step] at h
    split_ifs at h
    cases h
    exact ⟨ho, hplace⟩
  | valued tag => exact named_stepTag ho hplace h
  | slash tag =>
    simp only [step] at h
    split_ifs at h
    cases h
    exact ⟨ho.add (every_element.mpr ⟨hplace, everyIn_nil⟩), trivial⟩
  | closeName name =>
    simp only [step] at h
    split_ifs at h
    · cases h
      exact ⟨ho, trivial⟩
    · obtain ⟨o', ho', rfl⟩ := Option.map_eq_some_iff.mp h
      exact ⟨ho.pop? ho', trivial⟩

lemma named_run (hr : r.Named) {cs : List Char} (h : r.run cs = some r') : r'.Named := by
  induction cs generalizing r with
  | nil =>
    cases h
    exact hr
  | cons c cs ih =>
    obtain ⟨r'', hstep, h⟩ := Option.bind_eq_some_iff.mp h
    exact ih (named_step hr hstep) h

end Reader

/-- **Whatever is read has names.** -/
theorem hasNames_of_read {s : String} {ns : List Node} (h : read s = some ns) :
    EveryIn HasNames ns := by
  obtain ⟨r, hrun, h⟩ := Option.bind_eq_some_iff.mp h
  have hinitial : Reader.initial.Named := ⟨⟨by simp [Reader.initial, Outline.empty],
    by simp [Reader.initial, Outline.empty]⟩, trivial⟩
  have hr := Reader.named_run hinitial hrun
  unfold Reader.trees? at h
  split at h
  next cs _ _ =>
    cases h
    exact (hr.outline.addText cs).2
  next => cases h

/-! ### Joined texts -/

lemma everyIn_textNodes {P : Node → Prop} (s : String) : EveryIn P (textNodes s) := by
  unfold textNodes
  split <;> simp

/-- Whether an element has the property depends on its name and attributes alone. -/
def Shallow (P : Node → Prop) : Prop :=
  ∀ name attributes children children',
    P (.element name attributes children) ↔ P (.element name attributes children')

mutual

/-- Joining texts keeps the elements with their names and attributes. -/
theorem every_joined {P : Node → Prop} (hP : Shallow P) :
    ∀ n : Node, n.joined.Every P ↔ n.Every P
  | .element name attributes children => by
    rw [Node.joined, every_element, every_element, everyIn_joinedAfter hP children]
    exact and_congr_left' (hP name attributes _ _)
  | .text s => Iff.rfl

theorem everyIn_joinedAfter {P : Node → Prop} (hP : Shallow P) :
    ∀ (ns : List Node) {before : String}, EveryIn P (joinedAfter before ns) ↔ EveryIn P ns
  | [], before => by simp [joinedAfter, everyIn_textNodes]
  | .text s :: rest, before => by
    rw [joinedAfter, everyIn_joinedAfter hP rest]
    simp
  | .element name attributes children :: rest, before => by
    rw [joinedAfter, everyIn_append, everyIn_cons, everyIn_cons, everyIn_joinedAfter hP rest,
      every_joined hP]
    · exact and_iff_right (everyIn_textNodes before)
    · exact fun _ => nofun

end

lemma shallow_hasNames : Shallow HasNames := fun _ _ _ _ => Iff.rfl

/-- **Markup is read back just when it can be**: when all names are names to the reader. -/
theorem read_markup_iff (ns : List Node) {head : List Piece}
    (hhead : head = [] ∨ head = [.declaration]) :
    read (String.join ((head ++ piecesOf ns).map Piece.render)) = some (joinTexts ns) ↔
      EveryIn HasNames ns :=
  ⟨fun h => (everyIn_joinedAfter shallow_hasNames ns).mp (hasNames_of_read h),
    fun h => read_markup h hhead⟩

end VmDescriptor.Xml
