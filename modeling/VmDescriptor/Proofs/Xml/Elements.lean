import Mathlib.Data.List.Nodup
import VmDescriptor.Xml.Tree

/-!
The elements of a tree, at any depth.
-/

namespace VmDescriptor.Xml

/-! ### Equal trees -/

mutual

/-- Elements are equal if their names, attributes and children are. -/
def Node.decEq : (n m : Node) → Decidable (n = m)
  | .text s, .text s' => decidable_of_iff (s = s') (by simp)
  | .text _, .element .. | .element .., .text _ => isFalse nofun
  | .element name attributes children, .element name' attributes' children' =>
    have := decEqNodes children children'
    decidable_of_iff (name = name' ∧ attributes = attributes' ∧ children = children') (by simp)

/-- Trees one after the other are equal if each is. -/
def decEqNodes : (ns ms : List Node) → Decidable (ns = ms)
  | [], [] => isTrue rfl
  | [], _ :: _ | _ :: _, [] => isFalse nofun
  | n :: ns, m :: ms =>
    have := Node.decEq n m
    have := decEqNodes ns ms
    decidable_of_iff (n = m ∧ ns = ms) (by simp)

end

instance : DecidableEq Node := Node.decEq

/-! ### Elements by name -/

mutual

/-- The elements of a tree, each before those inside it. -/
def Node.elements : Node → List Node
  | .element name attributes children => .element name attributes children :: elementsOf children
  | .text _ => []

/-- The elements of trees one after the other. -/
def elementsOf : List Node → List Node
  | [] => []
  | n :: rest => n.elements ++ elementsOf rest

end

@[simp] lemma elementsOf_eq (ns : List Node) : elementsOf ns = ns.flatMap Node.elements := by
  induction ns with
  | nil => rfl
  | cons n rest ih => simp [elementsOf, ih]

/-- The elements called `name`. -/
def elementsNamed (name : String) (ns : List Node) : List Node :=
  (ns.flatMap Node.elements).filter (·.name = some name)

section

variable {name : String}

@[simp] lemma elementsNamed_nil : elementsNamed name [] = [] := rfl

@[simp] lemma elementsNamed_append (ns ms : List Node) :
    elementsNamed name (ns ++ ms) = elementsNamed name ns ++ elementsNamed name ms := by
  simp [elementsNamed]

lemma elementsNamed_cons (n : Node) (ns : List Node) :
    elementsNamed name (n :: ns) = elementsNamed name [n] ++ elementsNamed name ns :=
  elementsNamed_append [n] ns

lemma mem_elementsNamed {n e : Node} :
    e ∈ elementsNamed name [n] ↔ e ∈ n.elements ∧ e.name = some name := by
  simp [elementsNamed]

lemma elementsNamed_flatten (nss : List (List Node)) :
    elementsNamed name nss.flatten = nss.flatMap (elementsNamed name) := by
  induction nss with
  | nil => rfl
  | cons ns rest ih => simp [ih]

lemma elementsNamed_eq_flatMap (ns : List Node) :
    elementsNamed name ns = ns.flatMap fun n => elementsNamed name [n] := by
  induction ns with
  | nil => rfl
  | cons n rest ih => rw [elementsNamed_cons, ih, List.flatMap_cons]

lemma elementsNamed_element (name' : String) (attributes : List (String × String))
    (children : List Node) :
    elementsNamed name [.element name' attributes children] =
      (if name' = name then [.element name' attributes children] else []) ++
        elementsNamed name children := by
  by_cases h : name' = name <;> simp [elementsNamed, Node.elements, Node.name, h]

@[simp] lemma elementsNamed_leaf (name' : String) (attributes : List (String × String)) :
    elementsNamed name [.leaf name' attributes] =
      if name' = name then [.leaf name' attributes] else [] := by
  rw [Node.leaf, elementsNamed_element]
  simp

@[simp] lemma elementsNamed_text (s : String) : elementsNamed name [.text s] = [] := rfl

@[simp] lemma elementsNamed_withText (name' s : String) :
    elementsNamed name [.withText name' s] =
      if name' = name then [.withText name' s] else [] := by
  rw [Node.withText, elementsNamed_element]
  simp

/-- Each of the elements is the only one of its name in itself. -/
lemma elementsNamed_eq_self {ns : List Node} (h : ∀ n ∈ ns, elementsNamed name [n] = [n]) :
    elementsNamed name ns = ns := by
  rw [elementsNamed_eq_flatMap]
  induction ns with
  | nil => rfl
  | cons n rest ih =>
    rw [List.flatMap_cons, h n List.mem_cons_self,
      ih fun m hm => h m (List.mem_cons_of_mem n hm)]
    rfl

end

/-! ### Properties of all elements -/

/-- All elements of a tree have a property. -/
def Node.Every (P : Node → Prop) (n : Node) : Prop :=
  ∀ e ∈ n.elements, P e

/-- All elements of some trees have a property. -/
def EveryIn (P : Node → Prop) (ns : List Node) : Prop :=
  ∀ n ∈ ns, n.Every P

section

variable {P Q : Node → Prop}

lemma Node.Every.imp {n : Node} (h : n.Every P) (hPQ : ∀ e, P e → Q e) : n.Every Q :=
  fun e he => hPQ e (h e he)

@[simp] lemma every_element {name : String} {attributes : List (String × String)}
    {children : List Node} :
    (Node.element name attributes children).Every P ↔
      P (.element name attributes children) ∧ EveryIn P children := by
  simp only [Node.Every, EveryIn, Node.elements, elementsOf_eq, List.mem_cons,
    List.mem_flatMap, forall_eq_or_imp, forall_exists_index, and_imp]
  exact and_congr_right fun _ => ⟨fun h c hc e he => h e c hc he, fun h e c hc he => h c hc e he⟩

@[simp] lemma every_text {s : String} : (Node.text s).Every P := by
  simp [Node.Every, Node.elements]

@[simp] lemma everyIn_nil : EveryIn P [] := by simp [EveryIn]

@[simp] lemma everyIn_cons {n : Node} {ns : List Node} :
    EveryIn P (n :: ns) ↔ n.Every P ∧ EveryIn P ns := by simp [EveryIn]

@[simp] lemma everyIn_append {ns ms : List Node} :
    EveryIn P (ns ++ ms) ↔ EveryIn P ns ∧ EveryIn P ms := List.forall_mem_append

@[simp] lemma everyIn_map {α : Type} {f : α → Node} {xs : List α} :
    EveryIn P (xs.map f) ↔ ∀ x ∈ xs, (f x).Every P := List.forall_mem_map

@[simp] lemma everyIn_ite {c : Prop} [Decidable c] {ns ms : List Node} :
    EveryIn P (if c then ns else ms) ↔ (c → EveryIn P ns) ∧ (¬ c → EveryIn P ms) := by
  split <;> simp [*]

lemma everyIn_flatten {nss : List (List Node)} :
    EveryIn P nss.flatten ↔ ∀ ns ∈ nss, EveryIn P ns := by
  simp only [EveryIn, List.mem_flatten]
  exact ⟨fun h ns hns n hn => h n ⟨ns, hns, hn⟩, fun h n ⟨ns, hns, hn⟩ => h ns hns n hn⟩

@[simp] lemma every_leaf {name : String} {attributes : List (String × String)} :
    (Node.leaf name attributes).Every P ↔ P (.element name attributes []) := by simp [Node.leaf]

@[simp] lemma every_withText {name s : String} :
    (Node.withText name s).Every P ↔ P (.element name [] [.text s]) := by simp [Node.withText]

end

/-- If no element inside of trees has a property, those that have it are the trees' own. -/
lemma filter_elements {p : Node → Bool} {ns : List Node} (htext : ∀ s, p (.text s) = false)
    (h : ∀ n ∈ ns, EveryIn (p · = false) n.children) :
    (ns.flatMap Node.elements).filter p = ns.filter p := by
  induction ns with
  | nil => rfl
  | cons n rest ih =>
    obtain ⟨hn, hrest⟩ := List.forall_mem_cons.mp h
    rw [List.flatMap_cons, List.filter_append, ih hrest, List.filter_cons]
    cases n with
    | text s => simp [Node.elements, htext]
    | element name attributes children =>
      have hinside : (children.flatMap Node.elements).filter p = [] := by
        refine List.filter_eq_nil_iff.mpr fun e he => ?_
        obtain ⟨child, hchild, he⟩ := List.mem_flatMap.mp he
        simp [hn child hchild e he]
      rw [Node.elements, elementsOf_eq, List.filter_cons, hinside]
      split <;> rfl

/-- The element has a name of the vocabulary, and no two attributes with one key. -/
def Regular (vocabulary : String → Prop) (e : Node) : Prop :=
  (∃ name, e.name = some name ∧ vocabulary name) ∧ (e.attributes.map Prod.fst).Nodup

@[simp] lemma regular_element {vocabulary : String → Prop} {name : String}
    {attributes : List (String × String)} {children : List Node} :
    Regular vocabulary (.element name attributes children) ↔
      vocabulary name ∧ (attributes.map Prod.fst).Nodup := by
  simp [Regular, Node.name, Node.attributes]

lemma Regular.imp {V W : String → Prop} {e : Node} (h : Regular V e)
    (hVW : ∀ name, V name → W name) : Regular W e :=
  ⟨h.1.imp fun name hname => ⟨hname.1, hVW name hname.2⟩, h.2⟩

lemma EveryIn.imp {V W : String → Prop} {ns : List Node} (h : EveryIn (Regular V) ns)
    (hVW : ∀ name, V name → W name) : EveryIn (Regular W) ns :=
  fun n hn => (h n hn).imp fun _ he => he.imp hVW

lemma elementsNamed_eq_nil {ns : List Node} {V : String → Prop} {name : String}
    (h : EveryIn (Regular V) ns) (hname : ¬ V name) : elementsNamed name ns = [] := by
  rw [elementsNamed, List.filter_eq_nil_iff]
  intro e he hn
  obtain ⟨n, hn', he⟩ := List.mem_flatMap.mp he
  obtain ⟨⟨name', hname', hv⟩, -⟩ := h n hn' e he
  rw [decide_eq_true_iff, hname', Option.some.injEq] at hn
  exact hname (hn ▸ hv)

end VmDescriptor.Xml
