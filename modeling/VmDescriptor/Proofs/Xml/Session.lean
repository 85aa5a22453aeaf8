import VmDescriptor.Proofs.Xml.Reading

/-!
Sessions with a writer.

In a session operations are carried out one after the other on a new writer. An operation is one
call of the writer or several, and stops at the first call that fails; the session then goes on
with the writer as it is at that point.

The writer keeps step with the outline of what the calls describe: it has the same open elements,
a start tag is pending for as long as the innermost of them has no content, and the markup written
is that of the outline. So a session that can be finished has written the forest that its
successful operations describe, and the reader gets it back.
-/

namespace VmDescriptor.Xml

/-! ### Operations -/

/-- An operation of the writer. -/
inductive Operation where
  | declaration
  | start (name : String)
  | startQualified (namespaceName name : String)
  | addAttribute (key value : String)
  | declareNamespace (namespaceName uri : String)
  | text (s : String)
  | close
  | withText (name s : String)
  | qualifiedWithText (namespaceName name s : String)
  | leaf (name : String) (attributes : List (String × String))

namespace Operation

/-- The calls that an operation consists of. -/
def calls : Operation → List Call
  | .declaration => [.declaration]
  | .start name => [.start name]
  | .startQualified namespaceName name => [.start (Writer.qualified namespaceName name)]
  | .addAttribute key value => [.attribute key value]
  | .declareNamespace namespaceName uri =>
    [.attribute (Writer.qualified "xmlns" namespaceName) uri]
  | .text s => [.text s]
  | .close => [.close]
  | .withText name s => (Node.withText name s).calls
  | .qualifiedWithText namespaceName name s =>
    (Node.withText (Writer.qualified namespaceName name) s).calls
  | .leaf name attributes => (Node.leaf name attributes).calls

/-- The key of the attribute that an operation adds to the element just opened. -/
def addedKey? : Operation → Option String
  | .addAttribute key _ => some key
  | .declareNamespace namespaceName _ => some (Writer.qualified "xmlns" namespaceName)
  | _ => none

end Operation

/-- The name or key that a call writes. -/
def Call.name? : Call → Option String
  | .start name => some name
  | .attribute key _ => some key
  | _ => none

/-- The names and keys that an operation writes. -/
def Operation.names (op : Operation) : List String :=
  op.calls.filterMap Call.name?

namespace Writer

/-- The writer after an operation. -/
def operate (w : Writer) : Operation → Except Misuse Writer
  | .declaration => .ok w.declaration
  | .start name => .ok (w.start name)
  | .startQualified namespaceName name => .ok (w.start (qualified namespaceName name))
  | .addAttribute key value => w.addAttribute key value
  | .declareNamespace namespaceName uri => w.declareNamespace namespaceName uri
  | .text s => .ok (w.addText s)
  | .close => w.close
  | .withText name s => w.withText name s
  | .qualifiedWithText namespaceName name s => w.withText (qualified namespaceName name) s
  | .leaf name attributes => w.leaf name attributes

/-- Calls up to the first that fails: the misuse, if there is one, and the writer that is left. -/
def carryOut (w : Writer) : List Call → Option Misuse × Writer
  | [] => (none, w)
  | c :: calls =>
    match w.perform c with
    | .ok w' => w'.carryOut calls
    | .error misuse => (some misuse, w)

lemma performAll_singleton (w : Writer) (c : Call) : w.performAll [c] = w.perform c := by
  rw [performAll_cons, show (fun w' : Writer => w'.performAll []) = pure from rfl, bind_pure]

lemma withText_eq (w : Writer) (name s : String) :
    w.withText name s = w.performAll (Node.withText name s).calls := by
  rw [Node.performAll_calls]
  rfl

lemma leaf_eq (w : Writer) (name : String) (attributes : List (String × String)) :
    w.leaf name attributes = w.performAll (Node.leaf name attributes).calls := by
  rw [Node.performAll_calls]
  rfl

/-- An operation is its calls. -/
lemma operate_eq (w : Writer) (op : Operation) : w.operate op = w.performAll op.calls := by
  cases op with
  | withText name s => exact w.withText_eq name s
  | qualifiedWithText namespaceName name s => exact w.withText_eq _ s
  | leaf name attributes => exact w.leaf_eq name attributes
  | _ =>
    rw [Operation.calls, performAll_singleton]
    rfl

lemma carryOut_of_ok {w w' : Writer} {calls : List Call} (h : w.performAll calls = .ok w') :
    w.carryOut calls = (none, w') := by
  induction calls generalizing w with
  | nil =>
    cases h
    rfl
  | cons c calls ih =>
    rw [performAll_cons] at h
    rw [carryOut]
    cases hc : w.perform c with
    | ok w'' =>
      rw [hc] at h
      exact ih h
    | error misuse =>
      rw [hc] at h
      cases h

/-- What an operation that fails asks for: an attribute without a pending start tag, or an end
without an open element. -/
def Rejects (w : Writer) (op : Operation) (misuse : Misuse) : Prop :=
  (∃ key, op.addedKey? = some key ∧ w.pending = none ∧ misuse = .misplacedAttribute key) ∨
    op = .close ∧ w.openNames = [] ∧ misuse = .noOpenElement

lemma addAttribute_eq_error_iff {w : Writer} {key value : String} {misuse : Misuse} :
    w.addAttribute key value = .error misuse ↔
      w.pending = none ∧ misuse = .misplacedAttribute key := by
  unfold addAttribute
  cases w.pending with
  | none => simp [eq_comm]
  | some tag => simp

lemma close_eq_error_iff {w : Writer} {misuse : Misuse} :
    w.close = .error misuse ↔ w.openNames = [] ∧ misuse = .noOpenElement := by
  unfold close
  cases w.openNames with
  | nil => simp [eq_comm]
  | cons name outer => cases w.pending <;> simp

/-- **Only a misplaced attribute and a needless end fail.** -/
theorem operate_eq_error_iff {w : Writer} {op : Operation} {misuse : Misuse} :
    w.operate op = .error misuse ↔ w.Rejects op misuse := by
  have hnode (n : Node) : w.performAll n.calls ≠ .error misuse := by
    rw [Node.performAll_calls, Node.write_eq]
    exact nofun
  cases op with
  | addAttribute key value =>
    rw [operate, addAttribute_eq_error_iff]
    simp [Rejects, Operation.addedKey?]
  | declareNamespace namespaceName uri =>
    rw [operate, declareNamespace, addAttribute_eq_error_iff]
    simp [Rejects, Operation.addedKey?]
  | close =>
    rw [operate, close_eq_error_iff]
    simp [Rejects, Operation.addedKey?]
  | withText name s =>
    rw [operate, withText_eq]
    simp [Rejects, Operation.addedKey?, hnode]
  | qualifiedWithText namespaceName name s =>
    rw [operate, withText_eq]
    simp [Rejects, Operation.addedKey?, hnode]
  | leaf name attributes =>
    rw [operate, leaf_eq]
    simp [Rejects, Operation.addedKey?, hnode]
  | _ => simp [operate, Rejects, Operation.addedKey?]

/-- **A failed operation leaves the writer as it was**: what fails is a call by itself. -/
theorem carryOut_of_error {w : Writer} {op : Operation} {misuse : Misuse}
    (h : w.operate op = .error misuse) : w.carryOut op.calls = (some misuse, w) := by
  have hcall {c : Call} (hcalls : op.calls = [c]) : w.carryOut op.calls = (some misuse, w) := by
    rw [operate_eq, hcalls, performAll_singleton] at h
    rw [hcalls, carryOut, h]
  rcases operate_eq_error_iff.mp h with ⟨key, hkey, -⟩ | ⟨rfl, -⟩
  · cases op with
    | addAttribute => exact hcall rfl
    | declareNamespace => exact hcall rfl
    | _ => cases hkey
  · exact hcall rfl

end Writer

/-! ### Keeping step with the outline -/

/-- The markup of an element that is still open. -/
def Frame.pieces (f : Frame) : List Piece :=
  .start ⟨f.name, f.attributes⟩ :: piecesOf f.children

namespace Outline

/-- The markup of an outline, with the start tags of all its open elements. -/
def pieces (o : Outline) : List Piece :=
  piecesOf o.trees ++ o.frames.reverse.flatMap Frame.pieces

/-- The start tag that attributes can still be added to. -/
def pending? (o : Outline) : Option Tag :=
  match o.frames with
  | ⟨name, attributes, []⟩ :: _ => some ⟨name, attributes⟩
  | _ => none

lemma pieces_add (o : Outline) (n : Node) : (o.add n).pieces = o.pieces ++ n.pieces := by
  obtain ⟨frames, trees⟩ := o
  cases frames with
  | nil => simp [add, pieces, piecesOf_append, piecesOf_singleton]
  | cons f outer => simp [add, pieces, Frame.pieces, piecesOf_append, piecesOf_singleton]

lemma pending?_add (o : Outline) (n : Node) : (o.add n).pending? = none := by
  obtain ⟨frames, trees⟩ := o
  cases frames with
  | nil => rfl
  | cons f outer => simp [add, pending?]

lemma names_add (o : Outline) (n : Node) :
    (o.add n).frames.map Frame.name = o.frames.map Frame.name := by
  obtain ⟨frames, trees⟩ := o
  cases frames <;> rfl

/-- A pending start tag is that of the innermost element, which has no content. -/
lemma pending?_eq_some_iff {o : Outline} {tag : Tag} :
    o.pending? = some tag ↔ ∃ outer, o.frames = ⟨tag.name, tag.attributes, []⟩ :: outer := by
  obtain ⟨frames, trees⟩ := o
  unfold pending?
  split
  next name attributes outer h =>
    obtain ⟨tagName, tagAttributes⟩ := tag
    simp only at h
    simp [h]
  next hne =>
    simp only [reduceCtorEq, false_iff, not_exists]
    exact fun outer h => hne _ _ _ h

end Outline

/-- After a head, the writer has written what is in the outline. -/
structure Writer.Writes (w : Writer) (head : List Piece) (o : Outline) : Prop where
  openNames : w.openNames = o.frames.map Frame.name
  pending : w.pending = o.pending?
  pieces : w.flush.pieces.reverse = head ++ o.pieces

namespace Writer

variable {w w' : Writer} {head : List Piece} {o : Outline}

lemma flush_of_pending {tag : Tag} (h : w.pending = some tag) :
    w.flush.pieces = .start tag :: w.pieces := by
  simp [flush, h]

lemma flush_of_not_pending (h : w.pending = none) : w.flush = w := by
  simp [flush, h]

lemma Writes.start (h : w.Writes head o) (name : String) :
    (w.start name).Writes head { o with frames := ⟨name, [], []⟩ :: o.frames } where
  openNames := by
    rw [List.map_cons, ← h.openNames]
    rfl
  pending := rfl
  pieces := by
    have hpending : (w.start name).pending = some ⟨name, []⟩ := rfl
    rw [flush_of_pending hpending, Writer.start, List.reverse_cons, h.pieces]
    simp [Outline.pieces, Frame.pieces, piecesOf]

lemma Writes.text (h : w.Writes head o) (s : String) :
    (w.addText s).Writes head (o.add (.text s)) where
  openNames := by
    rw [Outline.names_add, ← h.openNames]
    exact w.openNames_flush
  pending := by
    rw [Outline.pending?_add]
    exact w.pending_flush
  pieces := by
    have hpending : (w.addText s).pending = none := w.pending_flush
    rw [flush_of_not_pending hpending, Outline.pieces_add, ← List.append_assoc, ← h.pieces]
    simp [addText, Node.pieces]

/-- The markup of an outline without the start tag that is pending. -/
lemma Writes.pieces_of_pending (h : w.Writes head o) (tag : Tag) {outer : List Frame}
    (hframes : o.frames = ⟨tag.name, tag.attributes, []⟩ :: outer) :
    w.pieces.reverse = head ++ { o with frames := outer }.pieces := by
  have hpending : w.pending = some tag := by
    rw [h.pending]
    exact Outline.pending?_eq_some_iff.mpr ⟨outer, hframes⟩
  have hpieces := h.pieces
  rw [flush_of_pending hpending, List.reverse_cons] at hpieces
  refine List.append_cancel_right (hpieces.trans ?_)
  simp [Outline.pieces, Frame.pieces, piecesOf, hframes]

lemma Writes.attribute (h : w.Writes head o) {tag : Tag} {outer : List Frame}
    (hframes : o.frames = ⟨tag.name, tag.attributes, []⟩ :: outer) (a : String × String) :
    { w with pending := some { tag with attributes := tag.attributes ++ [a] } }.Writes head
      { o with frames := ⟨tag.name, tag.attributes ++ [a], []⟩ :: outer } where
  openNames := by
    rw [h.openNames, hframes]
    rfl
  pending := rfl
  pieces := by
    rw [flush_of_pending rfl, List.reverse_cons, h.pieces_of_pending tag hframes]
    simp [Outline.pieces, Frame.pieces, piecesOf]

lemma Writes.close (h : w.Writes head o) {f : Frame} {outer : List Frame}
    (hframes : o.frames = f :: outer) :
    ∃ w', w.close = .ok w' ∧ w'.Writes head
      ({ o with frames := outer }.add (.element f.name f.attributes f.children)) := by
  obtain ⟨name, attributes, children⟩ := f
  have hnames : w.openNames = name :: outer.map Frame.name := by
    rw [h.openNames, hframes]
    rfl
  cases children with
  | nil =>
    have hpending : w.pending = some ⟨name, attributes⟩ := by
      rw [h.pending]
      exact Outline.pending?_eq_some_iff.mpr ⟨outer, hframes⟩
    refine ⟨⟨.empty ⟨name, attributes⟩ :: w.pieces, outer.map Frame.name, none⟩, ?_, ?_, ?_, ?_⟩
    · simp [Writer.close, hnames, hpending]
    · rw [Outline.names_add]
    · rw [Outline.pending?_add]
    · have hpieces := h.pieces_of_pending ⟨name, attributes⟩ hframes
      rw [flush_of_not_pending rfl, List.reverse_cons, hpieces, Outline.pieces_add,
        List.append_assoc]
      rfl
  | cons n rest =>
    have hpending : w.pending = none := by
      rw [h.pending, Outline.pending?, hframes]
    refine ⟨⟨.close name :: w.pieces, outer.map Frame.name, none⟩, ?_, ?_, ?_, ?_⟩
    · simp [Writer.close, hnames, hpending]
    · rw [Outline.names_add]
    · rw [Outline.pending?_add]
    · have hpieces := h.pieces
      rw [flush_of_not_pending hpending] at hpieces
      rw [flush_of_not_pending rfl, List.reverse_cons, hpieces, Outline.pieces_add]
      simp [Outline.pieces, Frame.pieces, Node.pieces, piecesOf, hframes]

/-- A call keeps the writer in step with the outline. -/
lemma Writes.perform (h : w.Writes head o) {c : Call} (hc : c ≠ .declaration)
    (hw' : w.perform c = .ok w') : ∃ o', o.perform c = some o' ∧ w'.Writes head o' := by
  cases c with
  | declaration => exact absurd rfl hc
  | start name =>
    cases hw'
    exact ⟨_, rfl, h.start name⟩
  | «attribute» key value =>
    cases hpending : w.pending with
    | none => simp [Writer.perform, addAttribute, hpending] at hw'
    | some tag =>
      obtain ⟨outer, hframes⟩ := Outline.pending?_eq_some_iff.mp (h.pending ▸ hpending)
      simp only [Writer.perform, addAttribute, hpending, Except.ok.injEq] at hw'
      subst hw'
      refine ⟨_, ?_, h.attribute hframes (key, value)⟩
      simp [Outline.perform, hframes]
  | text s =>
    cases hw'
    exact ⟨_, rfl, h.text s⟩
  | close =>
    cases hframes : o.frames with
    | nil => simp [Writer.perform, Writer.close, h.openNames, hframes] at hw'
    | cons f outer =>
      obtain ⟨w'', hclose, hwrites⟩ := h.close hframes
      obtain rfl : w'' = w' := Except.ok.inj (hclose.symm.trans hw')
      refine ⟨_, ?_, hwrites⟩
      simp [Outline.perform, hframes]

lemma Writes.performAll {calls : List Call} (h : w.Writes head o)
    (hcalls : .declaration ∉ calls) (hw' : w.performAll calls = .ok w') :
    ∃ o', o.performAll calls = some o' ∧ w'.Writes head o' := by
  induction calls generalizing w o with
  | nil =>
    cases hw'
    exact ⟨o, rfl, h⟩
  | cons c calls ih =>
    rw [List.mem_cons, not_or] at hcalls
    rw [performAll_cons] at hw'
    cases hc : w.perform c with
    | error misuse =>
      rw [hc] at hw'
      cases hw'
    | ok w'' =>
      rw [hc] at hw'
      obtain ⟨o'', ho'', hwrites⟩ := h.perform (Ne.symm hcalls.1) hc
      obtain ⟨o', ho', hwrites'⟩ := ih hwrites hcalls.2 hw'
      exact ⟨o', by rw [Outline.performAll_cons, ho'', Option.bind_some, ho'], hwrites'⟩

end Writer

/-! ### Names in an outline -/

namespace Outline

variable {o o' : Outline}

/-- A call with a name that the reader knows adds no other names. -/
lemma Named.perform (h : o.Named) {c : Call} (hc : ∀ name ∈ c.name?, IsName name)
    (ho' : o.perform c = some o') : o'.Named := by
  cases c with
  | declaration => cases ho'
  | start name =>
    cases ho'
    have hname : IsName name := hc name rfl
    exact h.push ⟨name, []⟩ ⟨fun _ hn => Option.some.inj hn ▸ hname, nofun⟩
  | «attribute» key value =>
    have hkey : IsName key := hc key rfl
    simp only [Outline.perform] at ho'
    split at ho'
    next name attributes outer hframes =>
      cases ho'
      obtain ⟨hall, htrees⟩ := h
      rw [hframes, List.forall_mem_cons] at hall
      obtain ⟨⟨hname, hkeys⟩, -⟩ := every_element.mp hall.1
      refine ⟨List.forall_mem_cons.mpr ⟨every_element.mpr ⟨⟨hname, ?_⟩, everyIn_nil⟩, hall.2⟩,
        htrees⟩
      rw [Node.attributes, List.map_append, List.forall_mem_append]
      exact ⟨hkeys, by simpa using hkey⟩
    next => cases ho'
  | text s =>
    cases ho'
    exact h.add every_text
  | close =>
    simp only [Outline.perform] at ho'
    split at ho'
    next f outer hframes =>
      have hpop : o.pop? f.name = some o' := by simpa [Outline.pop?, hframes] using ho'
      exact h.pop? hpop
    next => cases ho'

lemma Named.performAll {calls : List Call} (h : o.Named)
    (hcalls : ∀ name ∈ calls.filterMap Call.name?, IsName name)
    (ho' : o.performAll calls = some o') : o'.Named := by
  induction calls generalizing o with
  | nil =>
    cases ho'
    exact h
  | cons c calls ih =>
    rw [performAll_cons] at ho'
    obtain ⟨o'', hc, ho'⟩ := Option.bind_eq_some_iff.mp ho'
    refine ih (h.perform (fun name hname => ?_) hc) (fun name hname => ?_) ho'
    · exact hcalls name (List.mem_filterMap.mpr ⟨c, List.mem_cons_self, hname⟩)
    · obtain ⟨c', hc', hname⟩ := List.mem_filterMap.mp hname
      exact hcalls name (List.mem_filterMap.mpr ⟨c', List.mem_cons_of_mem c hc', hname⟩)

end Outline

/-! ### Sessions -/

/-- A session: the calls of the operations that succeeded, and the writer. -/
structure Session where
  calls : List Call
  writer : Writer

namespace Session

/-- The session after one more operation. -/
def attempt (s : Session) (op : Operation) : Session :=
  match s.writer.carryOut op.calls with
  | (none, w) => ⟨s.calls ++ op.calls, w⟩
  | (some _, w) => ⟨s.calls, w⟩

/-- The session in which operations are carried out one after the other. -/
def of (ops : List Operation) : Session :=
  ops.foldl attempt ⟨[], .empty⟩

/-- The calls that describe trees: all but a declaration. -/
def content (s : Session) : List Call :=
  s.calls.filter (· ≠ .declaration)

/-- The session has written, after a head, the outline of what its calls describe. -/
structure Describes (s : Session) (head : List Piece) (o : Outline) : Prop where
  outline : Outline.empty.performAll s.content = some o
  named : o.Named
  writes : s.writer.Writes head o

variable {s : Session} {head : List Piece} {o : Outline}

lemma attempt_of_ok {op : Operation} {w : Writer} (h : s.writer.operate op = .ok w) :
    s.attempt op = ⟨s.calls ++ op.calls, w⟩ := by
  rw [Writer.operate_eq] at h
  rw [attempt, Writer.carryOut_of_ok h]

lemma attempt_of_error {op : Operation} {misuse : Misuse}
    (h : s.writer.operate op = .error misuse) : s.attempt op = s := by
  rw [attempt, Writer.carryOut_of_error h]

lemma declaration_not_mem_calls {op : Operation} (h : op ≠ .declaration) :
    .declaration ∉ op.calls := by
  cases op <;> simp_all [Operation.calls, Node.calls, callsOf, Node.withText, Node.leaf]

/-- One operation keeps the session in step. -/
lemma Describes.attempt (h : s.Describes head o) {op : Operation} (hop : op ≠ .declaration)
    (hnames : ∀ name ∈ op.names, IsName name) : ∃ o', (s.attempt op).Describes head o' := by
  cases hw : s.writer.operate op with
  | error misuse => exact ⟨o, by rwa [attempt_of_error hw]⟩
  | ok w =>
    have hcalls := declaration_not_mem_calls hop
    obtain ⟨o', ho', hwrites⟩ :=
      h.writes.performAll hcalls ((s.writer.operate_eq op).symm.trans hw)
    have hkept : op.calls.filter (· ≠ .declaration) = op.calls :=
      List.filter_eq_self.mpr fun c hc => by simpa using ne_of_mem_of_not_mem hc hcalls
    refine ⟨o', ?_, h.named.performAll hnames ho', by rwa [attempt_of_ok hw]⟩
    rw [attempt_of_ok hw, content, List.filter_append, hkept, Outline.performAll_append]
    have hcontent := h.outline
    rw [content] at hcontent
    rw [hcontent, Option.bind_some, ho']

lemma Describes.foldl {ops : List Operation} (h : s.Describes head o)
    (hops : .declaration ∉ ops) (hnames : ∀ op ∈ ops, ∀ name ∈ op.names, IsName name) :
    ∃ o', (ops.foldl Session.attempt s).Describes head o' := by
  induction ops generalizing s o with
  | nil => exact ⟨o, h⟩
  | cons op ops ih =>
    rw [List.mem_cons, not_or] at hops
    obtain ⟨hop, hnames⟩ := List.forall_mem_cons.mp hnames
    obtain ⟨o', h'⟩ := h.attempt (Ne.symm hops.1) hop
    exact ih h' hops.2 hnames

/-- A session describes an outline, whether it begins with a declaration or not. -/
lemma exists_describes {ops : List Operation} (hdeclaration : .declaration ∉ ops.tail)
    (hnames : ∀ op ∈ ops, ∀ name ∈ op.names, IsName name) :
    ∃ head o, (head = [] ∨ head = [.declaration]) ∧ (Session.of ops).Describes head o := by
  have hempty : Outline.empty.Named := ⟨nofun, everyIn_nil⟩
  have hstart : Describes ⟨[], .empty⟩ [] .empty := ⟨rfl, hempty, rfl, rfl, rfl⟩
  cases ops with
  | nil => exact ⟨[], .empty, .inl rfl, hstart⟩
  | cons op ops =>
    by_cases hop : op = .declaration
    · subst hop
      have hdeclared : Describes ⟨[.declaration], Writer.empty.declaration⟩ [.declaration] .empty :=
        ⟨rfl, hempty, rfl, rfl, rfl⟩
      obtain ⟨o, h⟩ :=
        hdeclared.foldl hdeclaration fun op hop => hnames op (List.mem_cons_of_mem _ hop)
      exact ⟨[.declaration], o, .inr rfl, h⟩
    · have hops : .declaration ∉ op :: ops := by
        rw [List.mem_cons, not_or]
        exact ⟨Ne.symm hop, hdeclaration⟩
      obtain ⟨o, h⟩ := hstart.foldl hops hnames
      exact ⟨[], o, .inl rfl, h⟩

lemma finish_eq_error_iff {w : Writer} {misuse : Misuse} :
    w.finish = .error misuse ↔ w.openNames ≠ [] ∧ misuse = .unclosed w.openNames.reverse := by
  unfold Writer.finish
  cases w.openNames with
  | nil => simp
  | cons name outer => simp [eq_comm]

lemma finish_eq_ok_iff {w : Writer} {text : String} :
    w.finish = .ok text ↔ w.openNames = [] ∧ text = w.rendered := by
  unfold Writer.finish
  cases w.openNames with
  | nil => simp [eq_comm]
  | cons name outer => simp

/-- A finished session has written the forest that it describes. -/
lemma Describes.read_finish (h : s.Describes head o) (hhead : head = [] ∨ head = [.declaration])
    {text : String} (htext : s.writer.finish = .ok text) :
    described? s.content = some o.trees ∧ read text = some (joinTexts o.trees) := by
  obtain ⟨hnames, rfl⟩ := finish_eq_ok_iff.mp htext
  obtain ⟨frames, trees⟩ := o
  obtain rfl : frames = [] := by
    rw [h.writes.openNames] at hnames
    exact List.map_eq_nil_iff.mp hnames
  refine ⟨by rw [described?, h.outline], ?_⟩
  have hpieces := h.writes.pieces
  rw [Writer.flush_of_not_pending h.writes.pending] at hpieces
  rw [Writer.rendered, hpieces, Outline.pieces, List.reverse_nil, List.flatMap_nil,
    List.append_nil]
  exact read_markup h.named.2 hhead

end Session

/-- **A session says what it does.** Let a declaration come first or not at all, and let all names
be names to the reader. After any such session the successful operations describe an outline that
the writer is in step with. An operation then fails only as an attribute without a pending start
tag, which is there when the innermost open element has no content, or as an end without an open
element, and leaves the writer as it was. The session can be finished unless elements are open,
which are named outermost first, and the text is read back as the forest that the successful
operations describe. -/
theorem Session.faithful {ops : List Operation} (hdeclaration : .declaration ∉ ops.tail)
    (hnames : ∀ op ∈ ops, ∀ name ∈ op.names, IsName name) :
    ∃ o, Outline.empty.performAll (Session.of ops).content = some o ∧
      (Session.of ops).writer.pending = o.pending? ∧
      (Session.of ops).writer.openNames = o.frames.map Frame.name ∧
      (∀ op misuse, (Session.of ops).writer.operate op = .error misuse ↔
        (Session.of ops).writer.Rejects op misuse) ∧
      (∀ op misuse, (Session.of ops).writer.operate op = .error misuse →
        (Session.of ops).writer.carryOut op.calls = (some misuse, (Session.of ops).writer)) ∧
      (∀ misuse, (Session.of ops).writer.finish = .error misuse ↔
        o.frames ≠ [] ∧ misuse = .unclosed (o.frames.map Frame.name).reverse) ∧
      ∀ text, (Session.of ops).writer.finish = .ok text →
        described? (Session.of ops).content = some o.trees ∧
          read text = some (joinTexts o.trees) := by
  obtain ⟨head, o, hhead, h⟩ := exists_describes hdeclaration hnames
  refine ⟨o, h.outline, h.writes.pending, h.writes.openNames,
    fun op misuse => Writer.operate_eq_error_iff, fun op misuse => Writer.carryOut_of_error,
    fun misuse => ?_, fun text => h.read_finish hhead⟩
  rw [finish_eq_error_iff, h.writes.openNames, ne_eq, List.map_eq_nil_iff]

/-- A session in which an attribute comes too late and one end too many is asked for. -/
def misusedSession : List Operation :=
  [.declaration, .start "a", .addAttribute "k" "<", .text "", .addAttribute "late" "x",
    .text "&", .close, .close]

theorem Session.faithful_misused :
    .declaration ∉ misusedSession.tail ∧
      (∀ op ∈ misusedSession, ∀ name ∈ op.names, IsName name) ∧
      ∃ text, (Session.of misusedSession).writer.finish = .ok text ∧
        read text = some [.element "a" [("k", "<")] [.text "&"]] := by
  have hdeclaration : .declaration ∉ misusedSession.tail := by simp [misusedSession]
  have hnames : ∀ op ∈ misusedSession, ∀ name ∈ op.names, IsName name := by decide
  obtain ⟨o, ho, -, -, -, -, -, hread⟩ := Session.faithful hdeclaration hnames
  obtain rfl : ⟨[], [.element "a" [("k", "<")] [.text "", .text "&"]]⟩ = o := Option.some.inj ho
  exact ⟨hdeclaration, hnames, _, rfl, (hread _ rfl).2⟩

end VmDescriptor.Xml
