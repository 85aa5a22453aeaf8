import VmDescriptor.Encoder.Parts
import VmDescriptor.Descriptor.Parts
import VmDescriptor.Proofs.Outcomes
import VmDescriptor.Proofs.Xml.Writing

/-!
What encoders write.

Inside an element that is open a draft has attributes first and content after them. Each
operation of the writer takes a draft of this form to another one, so an encoder is carried out
step by step: an attribute can be added for as long as there is no content, and an end closes the
element that was opened last. What an encoder has written in the end is a list of trees.
-/

namespace VmDescriptor

open Program Xml

/-! ### Drafts -/

namespace Draft

/-- The draft with trees written. -/
def add (d : Draft) : List Node → Draft
  | [] => d
  | n :: rest => ⟨d.writer.put (piecesOf (n :: rest)), (callsOf (n :: rest)).reverse ++ d.calls⟩

/-- The draft with an element opened, which has attributes and no content. -/
def opened (d : Draft) (name : String) (attributes : List (String × String)) : Draft where
  writer := ⟨d.writer.flush.pieces, name :: d.writer.openNames, some ⟨name, attributes⟩⟩
  calls := (.start name :: attributes.map fun a => .attribute a.1 a.2).reverse ++ d.calls

variable (d : Draft)

@[simp] lemma add_nil : d.add [] = d := rfl

@[simp] lemma add_add (ns ms : List Node) : (d.add ns).add ms = d.add (ns ++ ms) := by
  cases ns with
  | nil => rfl
  | cons n ns =>
    cases ms with
    | nil => rw [List.append_nil, add_nil]
    | cons m ms =>
      simp only [add, Writer.put_put, List.cons_append, piecesOf, piecesOf_append, callsOf,
        callsOf_append, List.reverse_append, List.append_assoc]

/-- Trees are written in the elements that were open, which stay open. -/
lemma openNames_add (ns : List Node) : (d.add ns).writer.openNames = d.writer.openNames := by
  cases ns <;> rfl

end Draft

namespace Encoder

/-! ### The operations of the writer -/

section

variable (d : Draft) (name key value s : String) (attributes : List (String × String))
  (ns : List Node)

@[simp] lemma run_start : (start name).run d = pure ((), d.opened name []) := rfl

@[simp] lemma run_startQualified (namespaceName : String) :
    (startQualified namespaceName name).run d =
      pure ((), d.opened (Writer.qualified namespaceName name) []) := rfl

/-- An attribute can be added for as long as there is no content. -/
@[simp] lemma run_addAttribute :
    (addAttribute key value).run (d.opened name attributes) =
      pure ((), d.opened name (attributes ++ [(key, value)])) := by
  simp [addAttribute, call, StateT.run, Writer.perform, Writer.addAttribute, Draft.opened]

@[simp] lemma run_text : (text s).run d = pure ((), d.add [.text s]) := by
  simp [text, call, StateT.run, Writer.perform, Writer.addText_eq, Draft.add, piecesOf,
    Node.pieces, callsOf, Node.calls]

/-- An end closes the element that was opened last. -/
@[simp] lemma run_close :
    close.run ((d.opened name attributes).add ns) =
      pure ((), d.add [.element name attributes ns]) := by
  cases ns with
  | nil =>
    simp [close, call, StateT.run, Writer.perform, Writer.close, Draft.opened, Draft.add,
      piecesOf, Node.pieces, callsOf, Node.calls, Writer.put]
  | cons n rest =>
    simp [close, call, StateT.run, Writer.perform, Writer.close, Draft.opened, Draft.add,
      piecesOf, Node.pieces, callsOf, Node.calls, Writer.put, Writer.flush]

@[simp] lemma run_close_opened :
    close.run (d.opened name attributes) = pure ((), d.add [.element name attributes []]) :=
  run_close d name attributes []

end

/-! ### What encoders write -/

/-- Wherever it is carried out, the encoder writes trees. -/
abbrev Writes (e : Encoder Unit) (ns : List Node) : Prop :=
  ∀ d : Draft, e.run d = pure ((), d.add ns)

/-- Wherever it is carried out, the encoder writes the trees that a program describes. -/
abbrev Encodes (e : Encoder Unit) (p : Program (List Node)) : Prop :=
  ∀ d : Draft, e.run d = p >>= fun ns => pure ((), d.add ns)

section

variable {α : Type} {c : Prop} [Decidable c] {e : Encoder Unit} {ns : List Node}

/-! ### Choices and loops -/

@[simp] lemma whenSome_none (f : α → Encoder Unit) : whenSome none f = pure () := rfl

@[simp] lemma whenSome_some (f : α → Encoder Unit) (x : α) : whenSome (some x) f = f x := rfl

lemma writes_when (h : Writes e ns) : Writes (when c e) (if c then ns else []) := by
  intro d
  unfold when
  split
  · exact h d
  · rfl

lemma writes_whenSome {f : α → Encoder Unit} {g : α → Node} (h : ∀ x, Writes (f x) [g x])
    (o : Option α) : Writes (whenSome o f) (o.toList.map g) := by
  intro d
  cases o with
  | none => rfl
  | some x => exact h x d

lemma writes_each {f : α → Encoder Unit} {g : α → Node} (h : ∀ x, Writes (f x) [g x])
    (xs : List α) : Writes (each xs f) (xs.map g) := by
  induction xs with
  | nil => exact fun d => rfl
  | cons x rest ih =>
    intro d
    have hrest : (each rest f).run (d.add [g x]) = _ := ih (d.add [g x])
    unfold each at hrest ⊢
    simp [h, hrest]

lemma encodes_each {f : α → Encoder Unit} {p : α → Program (List Node)}
    (h : ∀ x, Encodes (f x) (p x)) (xs : List α) :
    Encodes (each xs f) (do return (← xs.mapM p).flatten) := by
  induction xs with
  | nil => exact fun d => rfl
  | cons x rest ih =>
    intro d
    have hrest (ns : List Node) : (each rest f).run (d.add ns) = _ := ih (d.add ns)
    unfold each at hrest ⊢
    simp [h, hrest]

/-- The same, if each value is described by one tree. -/
lemma encodes_each_single {f : α → Encoder Unit} {p : α → Program Node}
    (h : ∀ x, Encodes (f x) (do return [← p x])) (xs : List α) :
    Encodes (each xs f) (xs.mapM p) := by
  induction xs with
  | nil => exact fun d => rfl
  | cons x rest ih =>
    intro d
    have hrest (ns : List Node) : (each rest f).run (d.add ns) = _ := ih (d.add ns)
    unfold each at hrest ⊢
    simp [h, hrest]

/-! ### Elements without children -/

@[simp] lemma writes_withText (name s : String) : Writes (withText name s) [.withText name s] := by
  intro d
  simp [withText, Node.withText]

@[simp] lemma writes_bare (name : String) : Writes (bare name) [.leaf name []] := by
  intro d
  simp [bare, Node.leaf]

lemma run_each_addAttribute (d : Draft) (name : String)
    (before attributes : List (String × String)) :
    (each attributes fun (key, value) => addAttribute key value).run (d.opened name before) =
      pure ((), d.opened name (before ++ attributes)) := by
  induction attributes generalizing before with
  | nil => simp [each]
  | cons a rest ih =>
    have hrest := ih (before ++ [a])
    unfold each at hrest ⊢
    simp [hrest]

@[simp] lemma writes_leaf (name : String) (attributes : List (String × String)) :
    Writes (leaf name attributes) [.leaf name attributes] := by
  intro d
  simp [leaf, run_each_addAttribute, Node.leaf]

@[simp] lemma writes_when_withText (name s : String) :
    Writes (when c (withText name s)) (if c then [.withText name s] else []) :=
  writes_when (writes_withText name s)

@[simp] lemma writes_when_bare (name : String) :
    Writes (when c (bare name)) (if c then [.leaf name []] else []) :=
  writes_when (writes_bare name)

@[simp] lemma writes_when_leaf (name : String) (attributes : List (String × String)) :
    Writes (when c (leaf name attributes)) (if c then [.leaf name attributes] else []) :=
  writes_when (writes_leaf name attributes)

@[simp] lemma writes_whenSome_withText (name : String) (o : Option String) :
    Writes (whenSome o (withText name)) (o.toList.map (.withText name)) :=
  writes_whenSome (writes_withText name) o

@[simp] lemma writes_whenSome_leaf (name : String) (o : Option α)
    (attributes : α → List (String × String)) :
    Writes (whenSome o fun x => leaf name (attributes x))
      (o.toList.map fun x => .leaf name (attributes x)) :=
  writes_whenSome (fun x => writes_leaf name (attributes x)) o

@[simp] lemma writes_each_leaf (name : String) (xs : List α)
    (attributes : α → List (String × String)) :
    Writes (each xs fun x => leaf name (attributes x))
      (xs.map fun x => .leaf name (attributes x)) :=
  writes_each (fun x => writes_leaf name (attributes x)) xs

/-! ### Attributes that may be left out -/

@[simp] lemma run_when_addAttribute (d : Draft) (name key value : String)
    (attributes : List (String × String)) :
    (when c (addAttribute key value)).run (d.opened name attributes) =
      pure ((), d.opened name (attributes ++ if c then [(key, value)] else [])) := by
  unfold when
  split
  · exact run_addAttribute d name key value attributes
  · rw [List.append_nil]
    rfl

@[simp] lemma run_addAttributeIf (d : Draft) (name key : String) (value : Option String)
    (attributes : List (String × String)) :
    (addAttributeIf key value).run (d.opened name attributes) =
      pure ((), d.opened name (attributes ++ attributeIf key value)) := by
  cases value with
  | none => simp [addAttributeIf, attributeIf]
  | some value => simp [addAttributeIf, attributeIf]

@[simp] lemma run_addNumberIf (d : Draft) (name key : String) (n : Option Nat)
    (attributes : List (String × String)) :
    (addNumberIf key n).run (d.opened name attributes) =
      pure ((), d.opened name (attributes ++ Descriptor.numberIf key n)) :=
  run_addAttributeIf d name key _ attributes

end

/-! ### Parts that several elements have in common -/

@[simp] lemma writes_address (a : Address) : Writes (address a) (Descriptor.addressNodes a) := by
  intro d
  unfold address Descriptor.addressNodes
  rw [writes_when_leaf, ite_not]

@[simp] lemma writes_bootOrder (position : Nat) :
    Writes (bootOrder position) (Descriptor.bootNodes position) := by
  intro d
  unfold bootOrder Descriptor.bootNodes
  rw [writes_when_leaf, ite_not]

end Encoder

end VmDescriptor
