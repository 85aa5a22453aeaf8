/-!
Trees of XML elements.

An element has a name, attributes in order and children. A text without characters is a child
of its own: an element that holds it is not written in the empty form.
-/

namespace VmDescriptor.Xml

/-- An element or a text. -/
inductive Node where
  | element (name : String) (attributes : List (String × String)) (children : List Node)
  | text (s : String)

namespace Node

instance : Inhabited Node := ⟨.text ""⟩

/-- An element with attributes alone. -/
def leaf (name : String) (attributes : List (String × String)) : Node :=
  .element name attributes []

/-- An element with a text alone. -/
def withText (name s : String) : Node :=
  .element name [] [.text s]

/-- The name of an element; a text has none. -/
def name : Node → Option String
  | .element name _ _ => some name
  | .text _ => none

/-- The attributes of an element. -/
def attributes : Node → List (String × String)
  | .element _ attributes _ => attributes
  | .text _ => []

/-- The children of an element. -/
def children : Node → List Node
  | .element _ _ children => children
  | .text _ => []

/-- The value of an attribute. -/
def attribute? (n : Node) (key : String) : Option String :=
  n.attributes.lookup key

end Node

/-- An attribute that is present if it has a value. -/
def attributeIf (key : String) (value : Option String) : List (String × String) :=
  (value.map fun v => (key, v)).toList

end VmDescriptor.Xml
