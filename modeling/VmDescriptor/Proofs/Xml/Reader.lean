import VmDescriptor.Proofs.Xml.Elements
import VmDescriptor.Proofs.Xml.Writing

/-!
A reader of XML.

The reader knows elements, attributes in quotes of either kind, texts and the five predefined
entities, and leaves out a declaration at the beginning. It keeps white space as it is, and takes
any run of characters other than spaces and delimiters for a name. Comments, sections and
instructions are refused.

It goes through the characters once and builds up an outline, like the calls of a writer do. Texts
that stand next to each other cannot be told apart in markup, nor can an empty text be seen, so
what is read are trees with their texts joined.
-/

namespace VmDescriptor.Xml

/-! ### Names and entities -/

/-- White space in markup. -/
def isSpace (c : Char) : Bool :=
  c == ' ' || c == '\n' || c == '\t' || c == '\r'

/-- The characters that end a name, spaces aside. -/
def delimiters : List Char :=
  ['<', '>', '&', '\x27', '\x22', '/', '=', '?', '!']

/-- Whether the reader takes a character for a part of a name. -/
def isNameChar (c : Char) : Bool :=
  !isSpace c && c ∉ delimiters

/-- The text is one that the reader takes for a name. -/
def IsName (s : String) : Prop :=
  s ≠ "" ∧ ∀ c ∈ s.toList, isNameChar c

instance (s : String) : Decidable (IsName s) :=
  @instDecidableAnd _ _ _ (List.decidableBAll _ _)

/-- The element has a name and keys that the reader takes for names. -/
def HasNames (e : Node) : Prop :=
  (∀ name, e.name = some name → IsName name) ∧ ∀ key ∈ e.attributes.map Prod.fst, IsName key

/-- The character that a predefined entity stands for. -/
def entity? : List Char → Option Char
  | ['l', 't'] => some '<'
  | ['g', 't'] => some '>'
  | ['a', 'm', 'p'] => some '&'
  | ['a', 'p', 'o', 's'] => some '\x27'
  | ['q', 'u', 'o', 't'] => some '\x22'
  | _ => none

/-! ### The state of the reader -/

/-- What characters that stand for themselves are part of. -/
inductive Run where
  | text
  | value (tag : Tag) (key : String) (quote : Char)

/-- Where the reader stands; the characters of what it is in the middle of are kept last first. -/
inductive Place where
  /-- In a text or a value. -/
  | chars (run : Run) (cs : List Char)
  /-- In a reference to an entity, inside a text or a value. -/
  | reference (run : Run) (cs name : List Char)
  /-- At the beginning of a tag. -/
  | opened
  | startName (name : List Char)
  /-- After a space in a start tag. -/
  | spaced (tag : Tag)
  | key (tag : Tag) (key : List Char)
  /-- After the equals sign of an attribute. -/
  | equals (tag : Tag) (key : String)
  /-- After the value of an attribute. -/
  | valued (tag : Tag)
  /-- After the slash of an empty element. -/
  | slash (tag : Tag)
  | closeName (name : List Char)

/-- The state of the reader: what has been read, and the place. -/
structure Reader where
  outline : Outline
  place : Place

namespace Outline

/-- The outline with a text, whose characters come last first, unless it is empty. -/
def addText (o : Outline) (cs : List Char) : Outline :=
  if cs = [] then o else o.add (.text (.ofList cs.reverse))

/-- The outline with one more open element. -/
def push (o : Outline) (tag : Tag) : Outline :=
  { o with frames := ⟨tag.name, tag.attributes, []⟩ :: o.frames }

/-- The outline with the innermost element closed, whose name must be the given one. -/
def pop? (o : Outline) (name : String) : Option Outline :=
  match o.frames with
  | f :: outer =>
    if f.name = name then
      some ({ o with frames := outer }.add (.element f.name f.attributes f.children))
    else none
  | [] => none

end Outline

/-! ### Reading -/

namespace Reader

/-- The reader that has read nothing. -/
def initial : Reader := ⟨.empty, .chars .text []⟩

/-- The reader after one more character of a text or a value. -/
def stepChars (o : Outline) (run : Run) (cs : List Char) (c : Char) : Option Reader :=
  if c == '&' then some ⟨o, .reference run cs []⟩
  else match run with
    | .text =>
      if c == '<' then some ⟨o.addText cs, .opened⟩
      else if c == '>' && cs.take 2 == [']', ']'] then none
      else some ⟨o, .chars run (c :: cs)⟩
    | .value tag key quote =>
      if c == quote then
        some ⟨o, .valued { tag with attributes := tag.attributes ++ [(key, .ofList cs.reverse)] }⟩
      else if c == '<' then none
      else some ⟨o, .chars run (c :: cs)⟩

/-- The reader after a character of a start tag that belongs neither to a name nor to a value. -/
def stepTag (o : Outline) (tag : Tag) (c : Char) : Option Reader :=
  if isSpace c then some ⟨o, .spaced tag⟩
  else if c == '/' then some ⟨o, .slash tag⟩
  else if c == '>' then some ⟨o.push tag, .chars .text []⟩
  else none

/-- The reader after one more character, unless that character is out of place. -/
def step (r : Reader) (c : Char) : Option Reader :=
  let o := r.outline
  match r.place with
  | .chars run cs => stepChars o run cs c
  | .reference run cs name =>
    if c == ';' then (entity? name.reverse).map fun e => ⟨o, .chars run (e :: cs)⟩
    else some ⟨o, .reference run cs (c :: name)⟩
  | .opened =>
    if c == '/' then some ⟨o, .closeName []⟩
    else if isNameChar c then some ⟨o, .startName [c]⟩
    else none
  | .startName name =>
    if isNameChar c then some ⟨o, .startName (c :: name)⟩
    else stepTag o ⟨.ofList name.reverse, []⟩ c
  | .spaced tag => if isNameChar c then some ⟨o, .key tag [c]⟩ else stepTag o tag c
  | .key tag key =>
    if isNameChar c then some ⟨o, .key tag (c :: key)⟩
    else if c == '=' then some ⟨o, .equals tag (.ofList key.reverse)⟩
    else none
  | .equals tag key =>
    if c == '\x22' || c == '\x27' then some ⟨o, .chars (.value tag key c) []⟩ else none
  | .valued tag => stepTag o tag c
  | .slash tag =>
    if c == '>' then
      some ⟨o.add (.element tag.name tag.attributes []), .chars .text []⟩
    else none
  | .closeName name =>
    if isNameChar c then some ⟨o, .closeName (c :: name)⟩
    else if c == '>' then (o.pop? (.ofList name.reverse)).map (⟨·, .chars .text []⟩)
    else none

/-- The reader after characters one after the other. -/
def run (r : Reader) (cs : List Char) : Option Reader :=
  cs.foldlM step r

@[simp] lemma run_nil (r : Reader) : r.run [] = some r := rfl

@[simp] lemma run_cons (r : Reader) (c : Char) (cs : List Char) :
    r.run (c :: cs) = (r.step c).bind fun r' => r'.run cs :=
  List.foldlM_cons

lemma run_append (r : Reader) (cs ds : List Char) :
    r.run (cs ++ ds) = (r.run cs).bind fun r' => r'.run ds :=
  List.foldlM_append

/-- What has been read, if nothing is left open. -/
def trees? (r : Reader) : Option (List Node) :=
  match r.place, r.outline.frames with
  | .chars .text cs, [] => some (r.outline.addText cs).trees
  | _, _ => none

end Reader

/-- The characters after a declaration. -/
def afterDeclaration : List Char → List Char
  | '?' :: '>' :: rest => rest
  | _ :: rest => afterDeclaration rest
  | [] => []

/-- The characters of a document without a declaration at the beginning. -/
def withoutDeclaration : List Char → List Char
  | '<' :: '?' :: 'x' :: 'm' :: 'l' :: rest => afterDeclaration rest
  | cs => cs

/-- The trees that a text is the markup of. -/
def read (s : String) : Option (List Node) :=
  (Reader.initial.run (withoutDeclaration s.toList)).bind Reader.trees?

/-! ### Joined texts -/

/-- A text, unless it is empty. -/
def textNodes (s : String) : List Node :=
  if s = "" then [] else [.text s]

mutual

/-- The tree with the texts inside it joined. -/
def Node.joined : Node → Node
  | .element name attributes children => .element name attributes (joinedAfter "" children)
  | .text s => .text s

/-- Trees after a text, with texts next to each other made one and empty texts left out. -/
def joinedAfter (before : String) : List Node → List Node
  | [] => textNodes before
  | .text s :: rest => joinedAfter (before ++ s) rest
  | n :: rest => textNodes before ++ n.joined :: joinedAfter "" rest

end

/-- Trees with their texts joined. -/
def joinTexts (ns : List Node) : List Node :=
  joinedAfter "" ns

end VmDescriptor.Xml
