import Mathlib.Tactic.Lemma
import VmDescriptor.Xml.Writer

/-!
Writing trees.

A tree is written whatever the state of the writer: it adds the pieces of the tree after a
pending start tag and leaves the open elements as they were. So the document of a tree always
has a text.

Seen from the writer, a tree is a sequence of calls. What calls describe is a forest, built up
element by element; those of a tree describe that tree.
-/

namespace VmDescriptor.Xml

/-! ### The pieces of a tree -/

mutual

/-- The markup of a tree. -/
def Node.pieces : Node → List Piece
  | .element name attributes [] => [.empty ⟨name, attributes⟩]
  | .element name attributes (n :: rest) =>
    .start ⟨name, attributes⟩ :: (n.pieces ++ piecesOf rest) ++ [.close name]
  | .text s => [.text s]

/-- The markup of trees one after the other. -/
def piecesOf : List Node → List Piece
  | [] => []
  | n :: rest => n.pieces ++ piecesOf rest

end

lemma piecesOf_append (ns ms : List Node) : piecesOf (ns ++ ms) = piecesOf ns ++ piecesOf ms := by
  induction ns with
  | nil => rfl
  | cons n rest ih => rw [List.cons_append, piecesOf, piecesOf, ih, List.append_assoc]

lemma piecesOf_singleton (n : Node) : piecesOf [n] = n.pieces := by
  simp [piecesOf]

namespace Writer

/-- The writer after markup that opens nothing and leaves no start tag pending. -/
def put (w : Writer) (pieces : List Piece) : Writer :=
  ⟨pieces.reverse ++ w.flush.pieces, w.openNames, none⟩

@[simp] lemma openNames_flush (w : Writer) : w.flush.openNames = w.openNames := by
  unfold flush
  split <;> rfl

@[simp] lemma pending_flush (w : Writer) : w.flush.pending = none := by
  unfold flush
  split
  · rfl
  · assumption

@[simp] lemma openNames_put (w : Writer) (pieces : List Piece) :
    (w.put pieces).openNames = w.openNames := rfl

@[simp] lemma put_put (w : Writer) (p q : List Piece) : (w.put p).put q = w.put (p ++ q) := by
  simp [put, flush]

lemma addText_eq (w : Writer) (s : String) : w.addText s = w.put [.text s] := by
  simp [addText, put]

lemma addAttributes_eq {w : Writer} {tag : Tag} (h : w.pending = some tag)
    (attributes : List (String × String)) :
    w.addAttributes attributes =
      .ok { w with pending := some { tag with attributes := tag.attributes ++ attributes } } := by
  induction attributes generalizing w tag with
  | nil =>
    cases w
    cases h
    simp [addAttributes, pure, Except.pure]
  | cons a rest ih =>
    have hstep : w.addAttribute a.1 a.2 =
        .ok { w with pending := some { tag with attributes := tag.attributes ++ [a] } } := by
      simp [addAttribute, h]
    have := ih (w := { w with pending := some { tag with attributes := tag.attributes ++ [a] } })
      rfl
    simp only [addAttributes, List.foldlM_cons, hstep] at this ⊢
    simpa [bind, Except.bind] using this

lemma addAttributes_start (w : Writer) (name : String) (attributes : List (String × String)) :
    (w.start name).addAttributes attributes =
      .ok ⟨w.flush.pieces, name :: w.openNames, some ⟨name, attributes⟩⟩ := by
  have hpending : (w.start name).pending = some ⟨name, []⟩ := rfl
  rw [addAttributes_eq hpending]
  simp [start]

end Writer

mutual

/-- **Writing never fails**: it puts down the markup of the tree. -/
theorem Node.write_eq : ∀ (n : Node) (w : Writer), n.write w = .ok (w.put n.pieces)
  | .element name attributes [], w => by
    simp [Node.write, writeAll, Writer.addAttributes_start, Writer.close, Writer.put, Node.pieces,
      bind, Except.bind]
  | .element name attributes (n :: rest), w => by
    let opened : Writer := ⟨w.flush.pieces, name :: w.openNames, some ⟨name, attributes⟩⟩
    have hfirst : n.write opened = .ok (opened.put n.pieces) := n.write_eq opened
    have hrest := writeAll_eq rest (w := opened.put n.pieces) rfl
    simp only [Node.write, Writer.addAttributes_start, writeAll, bind, Except.bind, opened,
      hfirst, hrest]
    simp [Writer.close, Writer.put, Writer.flush, Node.pieces]
  | .text s, w => by simp [Node.write, Writer.addText_eq, Node.pieces]

theorem writeAll_eq : ∀ (ns : List Node) {w : Writer}, w.pending = none →
    writeAll ns w = .ok (w.put (piecesOf ns))
  | [], w, h => by
    cases w
    cases h
    rfl
  | n :: rest, w, _ => by
    have hrest := writeAll_eq rest (w := w.put n.pieces) rfl
    simp only [writeAll, n.write_eq, bind, Except.bind, hrest, Writer.put_put, piecesOf]

end

/-- A tree always has a document: the declaration and the markup of the tree. -/
theorem Node.document_eq (root : Node) :
    root.document = .ok (String.join ((.declaration :: root.pieces).map Piece.render)) := by
  simp [Node.document, Node.write_eq, Writer.declaration, Writer.empty, Writer.put, Writer.flush,
    Writer.finish, Writer.rendered, bind, Except.bind]

/-! ### Calls of the writer -/

namespace Writer

lemma performAll_nil (w : Writer) : w.performAll [] = pure w := rfl

lemma performAll_cons (w : Writer) (c : Call) (calls : List Call) :
    w.performAll (c :: calls) = (w.perform c >>= fun w' => w'.performAll calls) :=
  List.foldlM_cons

lemma performAll_append (w : Writer) (calls more : List Call) :
    w.performAll (calls ++ more) = (w.performAll calls >>= fun w' => w'.performAll more) :=
  List.foldlM_append

lemma performAll_attributes (w : Writer) (attributes : List (String × String)) :
    w.performAll (attributes.map fun a => .attribute a.1 a.2) = w.addAttributes attributes := by
  simp only [performAll, addAttributes, List.foldlM_map]
  rfl

end Writer

mutual

/-- The calls that write a tree. -/
def Node.calls : Node → List Call
  | .element name attributes children =>
    .start name :: (attributes.map fun a => .attribute a.1 a.2) ++ callsOf children ++ [.close]
  | .text s => [.text s]

/-- The calls that write trees one after the other. -/
def callsOf : List Node → List Call
  | [] => []
  | n :: rest => n.calls ++ callsOf rest

end

lemma callsOf_append (ns ms : List Node) : callsOf (ns ++ ms) = callsOf ns ++ callsOf ms := by
  induction ns with
  | nil => rfl
  | cons n rest ih => rw [List.cons_append, callsOf, callsOf, ih, List.append_assoc]

mutual

theorem Node.performAll_calls : ∀ (n : Node) (w : Writer), w.performAll n.calls = n.write w
  | .element name attributes children, w => by
    simp only [Node.calls, Node.write, List.cons_append, List.append_assoc,
      Writer.performAll_cons, Writer.performAll_append, Writer.performAll_nil, Writer.perform,
      Writer.performAll_attributes, performAll_callsOf children, bind_pure]
    rfl
  | .text s, w => rfl

theorem performAll_callsOf : ∀ (ns : List Node) (w : Writer),
    w.performAll (callsOf ns) = writeAll ns w
  | [], w => rfl
  | n :: rest, w => by
    simp only [callsOf, writeAll, Writer.performAll_append, n.performAll_calls,
      performAll_callsOf rest]

end

/-- A document is what its calls write on an empty writer. -/
lemma Node.document_eq_ok_iff (root : Node) {text : String} :
    root.document = .ok text ↔
      ∃ w, Writer.empty.performAll (.declaration :: root.calls) = .ok w ∧ w.finish = .ok text := by
  rw [Writer.performAll_cons]
  simp only [Writer.perform, bind, Except.bind, root.performAll_calls, root.write_eq,
    Node.document, Except.ok.injEq, exists_eq_left']

/-! ### What calls describe -/

/-- An element that is not closed yet. -/
structure Frame where
  name : String
  attributes : List (String × String)
  children : List Node

/-- What calls have described so far: the open elements, innermost first, and the trees that
are complete. -/
structure Outline where
  frames : List Frame
  trees : List Node

namespace Outline

/-- Nothing has been described. -/
def empty : Outline := ⟨[], []⟩

/-- The outline with one more tree in the innermost open element. -/
def add (o : Outline) (n : Node) : Outline :=
  match o.frames with
  | [] => { o with trees := o.trees ++ [n] }
  | f :: outer => { o with frames := { f with children := f.children ++ [n] } :: outer }

/-- The outline after a call. Attributes belong to an element without content; a declaration is
no part of a tree. -/
def perform (o : Outline) : Call → Option Outline
  | .declaration => none
  | .start name => some { o with frames := ⟨name, [], []⟩ :: o.frames }
  | .attribute key value =>
    match o.frames with
    | ⟨name, attributes, []⟩ :: outer =>
      some { o with frames := ⟨name, attributes ++ [(key, value)], []⟩ :: outer }
    | _ => none
  | .text s => some (o.add (.text s))
  | .close =>
    match o.frames with
    | f :: outer => some ({ o with frames := outer }.add (.element f.name f.attributes f.children))
    | [] => none

/-- The outline after calls one after the other. -/
def performAll (o : Outline) (calls : List Call) : Option Outline :=
  calls.foldlM perform o

lemma performAll_cons (o : Outline) (c : Call) (calls : List Call) :
    o.performAll (c :: calls) = (o.perform c).bind fun o' => o'.performAll calls :=
  List.foldlM_cons

lemma performAll_append (o : Outline) (calls more : List Call) :
    o.performAll (calls ++ more) = (o.performAll calls).bind fun o' => o'.performAll more :=
  List.foldlM_append

lemma performAll_attributes (name : String) (before attributes : List (String × String))
    (outer : List Frame) (trees : List Node) :
    performAll ⟨⟨name, before, []⟩ :: outer, trees⟩
        (attributes.map fun a => .attribute a.1 a.2) =
      some ⟨⟨name, before ++ attributes, []⟩ :: outer, trees⟩ := by
  induction attributes generalizing before with
  | nil => simp [performAll]
  | cons a rest ih =>
    simp only [List.map_cons, performAll_cons, perform, Option.bind_some, ih]
    simp

lemma foldl_add (f : Frame) (outer : List Frame) (trees ns : List Node) :
    ns.foldl add ⟨f :: outer, trees⟩ =
      ⟨{ f with children := f.children ++ ns } :: outer, trees⟩ := by
  induction ns generalizing f with
  | nil => simp
  | cons n rest ih => simp [add, ih]

end Outline

/-- The trees that calls describe, if no element stays open. -/
def described? (calls : List Call) : Option (List Node) :=
  match Outline.empty.performAll calls with
  | some ⟨[], trees⟩ => some trees
  | _ => none

mutual

theorem Node.outline_calls : ∀ (n : Node) (o : Outline), o.performAll n.calls = some (o.add n)
  | .element name attributes children, o => by
    simp only [Node.calls, List.cons_append, List.append_assoc, Outline.performAll_cons,
      Outline.performAll_append, Outline.perform, Option.bind_some,
      Outline.performAll_attributes, outline_callsOf children, Outline.foldl_add]
    simp [Outline.performAll]
  | .text s, o => rfl

theorem outline_callsOf : ∀ (ns : List Node) (o : Outline),
    o.performAll (callsOf ns) = some (ns.foldl Outline.add o)
  | [], o => rfl
  | n :: rest, o => by
    simp only [callsOf, Outline.performAll_append, n.outline_calls, Option.bind_some,
      outline_callsOf rest, List.foldl_cons]

end

/-- The calls that write a tree describe that tree. -/
theorem Node.described?_calls (n : Node) : described? n.calls = some [n] := by
  simp [described?, n.outline_calls, Outline.add, Outline.empty]

end VmDescriptor.Xml
