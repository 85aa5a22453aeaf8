import VmDescriptor.Proofs.Xml.Reader

/-!
Elements of trees with their texts joined.

Joining texts touches texts alone. So what is found by looking for elements, at any depth or among
the children, is found after the joining as before, each element with the texts inside it joined;
names and attributes stay, and an element without texts stays as it is.
-/

namespace VmDescriptor.Xml

section

variable (n : Node) (key : String)

@[simp] lemma Node.name_joined : n.joined.name = n.name := by cases n <;> rfl

@[simp] lemma Node.attributes_joined : n.joined.attributes = n.attributes := by cases n <;> rfl

@[simp] lemma Node.attribute?_joined : n.joined.attribute? key = n.attribute? key := by
  rw [attribute?, attributes_joined, attribute?]

lemma Node.children_joined : n.joined.children = joinedAfter "" n.children := by cases n <;> rfl

end

/-- Joining goes on after an element with no text before what follows. -/
lemma joinedAfter_element (before name : String) (attributes : List (String × String))
    (children rest : List Node) :
    joinedAfter before (.element name attributes children :: rest) =
      textNodes before ++ (Node.element name attributes children).joined ::
        joinedAfter "" rest := by
  rw [joinedAfter]
  intro _ h
  cases h

/-! ### Looking for elements -/

mutual

/-- Joining texts keeps the elements of a tree, in their order. -/
theorem elements_joined : ∀ n : Node, n.joined.elements = n.elements.map Node.joined
  | .element name attributes children => by
    rw [Node.joined, Node.elements, Node.elements, elementsOf_eq, elementsOf_eq,
      flatMap_elements_joinedAfter "" children, List.map_cons, Node.joined]
  | .text s => rfl

theorem flatMap_elements_joinedAfter : ∀ (before : String) (ns : List Node),
    (joinedAfter before ns).flatMap Node.elements = (ns.flatMap Node.elements).map Node.joined
  | before, [] => by
    rw [joinedAfter, textNodes]
    split <;> rfl
  | before, .text s :: rest => by
    rw [joinedAfter, flatMap_elements_joinedAfter _ rest]
    rfl
  | before, .element name attributes children :: rest => by
    have htext : (textNodes before).flatMap Node.elements = [] := by
      rw [textNodes]
      split <;> rfl
    rw [joinedAfter_element, List.flatMap_append, htext, List.flatMap_cons,
      elements_joined, flatMap_elements_joinedAfter "" rest, List.flatMap_cons, List.map_append,
      List.nil_append]

end

/-- Elements with a name are found in a tree with its texts joined as they are without. -/
lemma elementsNamed_joined (name : String) (n : Node) :
    elementsNamed name [n.joined] = (elementsNamed name [n]).map Node.joined := by
  simp only [elementsNamed, List.flatMap_singleton, elements_joined, List.filter_map,
    Function.comp_def, Node.name_joined]

/-- Nodes other than texts are found among joined ones as they are among the others. -/
lemma filter_joinedAfter {p : Node → Bool} (htext : ∀ s, p (.text s) = false)
    (hp : ∀ n : Node, p n.joined = p n) (before : String) (ns : List Node) :
    (joinedAfter before ns).filter p = (ns.filter p).map Node.joined := by
  have htexts (before : String) : (textNodes before).filter p = [] := by
    rw [textNodes]
    split
    · rfl
    · simp [htext]
  induction ns generalizing before with
  | nil => rw [joinedAfter, htexts, List.filter_nil, List.map_nil]
  | cons n rest ih =>
    cases n with
    | text s => rw [joinedAfter, ih, List.filter_cons_of_neg (by simp [htext])]
    | element name attributes children =>
      rw [joinedAfter_element, List.filter_append, htexts, List.nil_append, List.filter_cons, hp,
        ih, List.filter_cons]
      split <;> simp

/-! ### Elements without texts -/

/-- The element has no text among its children. -/
def HasNoText (e : Node) : Prop :=
  ∀ s, .text s ∉ e.children

@[simp] lemma hasNoText_element {name : String} {attributes : List (String × String)}
    {children : List Node} :
    HasNoText (.element name attributes children) ↔ ∀ s, .text s ∉ children := Iff.rfl

mutual

/-- Without texts there is nothing to join. -/
theorem joined_eq_self : ∀ n : Node, n.Every HasNoText → n.joined = n
  | .element name attributes children, h => by
    obtain ⟨htexts, hchildren⟩ := every_element.mp h
    rw [Node.joined, joinedAfter_eq_self children htexts hchildren]
  | .text s, _ => rfl

theorem joinedAfter_eq_self : ∀ ns : List Node, (∀ s, .text s ∉ ns) → EveryIn HasNoText ns →
    joinedAfter "" ns = ns
  | [], _, _ => rfl
  | .text s :: rest, htexts, _ => absurd List.mem_cons_self (htexts s)
  | .element name attributes children :: rest, htexts, h => by
    obtain ⟨hn, hrest⟩ := everyIn_cons.mp h
    have htexts (s : String) : .text s ∉ rest := fun hs => htexts s (List.mem_cons_of_mem _ hs)
    rw [joinedAfter_element, joined_eq_self _ hn, joinedAfter_eq_self rest htexts hrest]
    rfl

end

lemma map_joined_eq_self {ns : List Node} (h : EveryIn HasNoText ns) :
    ns.map Node.joined = ns :=
  (List.map_congr_left fun n hn => joined_eq_self n (h n hn)).trans (List.map_id ns)

end VmDescriptor.Xml
