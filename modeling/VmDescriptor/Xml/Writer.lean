import VmDescriptor.Text.Quoted
import VmDescriptor.Xml.Tree

/-!
A streaming XML writer.

The writer keeps the names of the open elements and the start tag of the innermost one for as
long as it has no content; until then attributes may be added to it. An element closed without
content is written in its empty form. What has been written is a list of pieces of markup.

A misuse of the writer is an error and leaves the writer as it was.
-/

namespace VmDescriptor.Xml

open Text

/-- How a character is written in a text or an attribute value. -/
def escapeChar (c : Char) : List Char :=
  if c == '<' then ['&', 'l', 't', ';']
  else if c == '>' then ['&', 'g', 't', ';']
  else if c == '&' then ['&', 'a', 'm', 'p', ';']
  else if c == '\x27' then ['&', 'a', 'p', 'o', 's', ';']
  else if c == '\x22' then ['&', 'q', 'u', 'o', 't', ';']
  else [c]

/-- A text with the five special characters as entities. -/
def escape (s : String) : String :=
  .ofList (s.toList.flatMap escapeChar)

/-- A start tag: a name and attributes. -/
structure Tag where
  name : String
  attributes : List (String × String)
  deriving DecidableEq

/-- A piece of markup. -/
inductive Piece where
  | declaration
  | start (tag : Tag)
  | empty (tag : Tag)
  | close (name : String)
  | text (s : String)
  deriving DecidableEq

namespace Tag

/-- An attribute after a blank. -/
def attributeText : String × String → String
  | (key, value) => " " ++ key ++ "=\x22" ++ escape value ++ "\x22"

/-- The name and attributes. -/
def text (tag : Tag) : String :=
  tag.name ++ String.join (tag.attributes.map attributeText)

end Tag

/-- The text of a piece. -/
def Piece.render : Piece → String
  | .declaration => "<?xml version=\x221.0\x22 encoding=\x22UTF-8\x22?>"
  | .start tag => "<" ++ tag.text ++ ">"
  | .empty tag => "<" ++ tag.text ++ "/>"
  | .close name => "</" ++ name ++ ">"
  | .text s => escape s

/-- A misuse of the writer. There are no other errors: the text is written to memory, where there is
room for it. -/
inductive Misuse where
  /-- An attribute, with this key, where no start tag is pending. -/
  | misplacedAttribute (key : String)
  | noOpenElement
  /-- The end of the document while these elements are open, outermost first. -/
  | unclosed (names : List String)
  deriving DecidableEq

/-- The wording of the error. -/
def Misuse.message : Misuse → String
  | .misplacedAttribute key => "attribute " ++ quoted key ++ " written after element content"
  | .noOpenElement => "no open element to close"
  | .unclosed names => "document finished with open elements: " ++ quotedList names

/-- A call of a writer. -/
inductive Call where
  | declaration
  | start (name : String)
  | attribute (key value : String)
  | text (s : String)
  | close
  deriving DecidableEq

/-- The state of a writer. -/
structure Writer where
  /-- The pieces written, last first. -/
  pieces : List Piece
  /-- The names of the open elements, innermost first. -/
  openNames : List String
  /-- The start tag of the innermost element while it has no content. -/
  pending : Option Tag
  deriving DecidableEq

namespace Writer

/-- A writer that has written nothing. -/
def empty : Writer := ⟨[], [], none⟩

/-- The writer with its pending start tag written. -/
def flush (w : Writer) : Writer :=
  match w.pending with
  | some tag => { w with pieces := .start tag :: w.pieces, pending := none }
  | none => w

/-- Writes the XML declaration, before a pending start tag. -/
def declaration (w : Writer) : Writer :=
  { w with pieces := .declaration :: w.pieces }

/-- Opens an element. -/
def start (w : Writer) (name : String) : Writer :=
  { w.flush with openNames := name :: w.openNames, pending := some ⟨name, []⟩ }

/-- Adds an attribute to the element just opened. -/
def addAttribute (w : Writer) (key value : String) : Except Misuse Writer :=
  match w.pending with
  | some tag =>
    .ok { w with pending := some { tag with attributes := tag.attributes ++ [(key, value)] } }
  | none => .error (.misplacedAttribute key)

/-- Adds attributes one after the other. -/
def addAttributes (w : Writer) (attributes : List (String × String)) : Except Misuse Writer :=
  attributes.foldlM (fun w (key, value) => w.addAttribute key value) w

/-- Writes a text. -/
def addText (w : Writer) (s : String) : Writer :=
  { w.flush with pieces := .text s :: w.flush.pieces }

/-- Closes the innermost element. -/
def close (w : Writer) : Except Misuse Writer :=
  match w.openNames, w.pending with
  | [], _ => .error .noOpenElement
  | _ :: outer, some tag => .ok ⟨.empty tag :: w.pieces, outer, none⟩
  | name :: outer, none => .ok ⟨.close name :: w.pieces, outer, none⟩

/-- A name in a namespace. -/
def qualified (namespaceName name : String) : String :=
  namespaceName ++ ":" ++ name

/-- Declares a namespace on the element just opened. -/
def declareNamespace (w : Writer) (namespaceName uri : String) : Except Misuse Writer :=
  w.addAttribute (qualified "xmlns" namespaceName) uri

/-- Writes an element with a text. -/
def withText (w : Writer) (name s : String) : Except Misuse Writer :=
  ((w.start name).addText s).close

/-- Writes an element with attributes alone. -/
def leaf (w : Writer) (name : String) (attributes : List (String × String)) :
    Except Misuse Writer := do
  (← (w.start name).addAttributes attributes).close

/-! ### Calls -/

/-- The writer after a call. -/
def perform (w : Writer) : Call → Except Misuse Writer
  | .declaration => .ok w.declaration
  | .start name => .ok (w.start name)
  | .attribute key value => w.addAttribute key value
  | .text s => .ok (w.addText s)
  | .close => w.close

/-- The writer after calls one after the other. -/
def performAll (w : Writer) (calls : List Call) : Except Misuse Writer :=
  calls.foldlM perform w

/-! ### The end of the document -/

/-- The text that has been written. -/
def rendered (w : Writer) : String :=
  String.join (w.pieces.reverse.map Piece.render)

/-- The text of the document, in which every element must be closed. -/
def finish (w : Writer) : Except Misuse String :=
  match w.openNames with
  | [] => .ok w.rendered
  | names => .error (.unclosed names.reverse)

end Writer

mutual

/-- Writes a tree. -/
def Node.write : Node → Writer → Except Misuse Writer
  | .element name attributes children, w => do
    let w ← (w.start name).addAttributes attributes
    let w ← writeAll children w
    w.close
  | .text s, w => .ok (w.addText s)

/-- Writes trees one after the other. -/
def writeAll : List Node → Writer → Except Misuse Writer
  | [], w => .ok w
  | n :: rest, w => do writeAll rest (← n.write w)

end

/-- The document with a root element: the declaration and the tree. -/
def Node.document (root : Node) : Except Misuse String := do
  (← root.write Writer.empty.declaration).finish

end VmDescriptor.Xml
