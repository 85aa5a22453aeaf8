import VmDescriptor.Toml.Quoted
import VmDescriptor.Toml.Scalar
import VmDescriptor.Toml.Table

/-!
Reading TOML documents.

A document is read as a JSON object. Arrays and inline tables may be nested 127 deep, and a
dotted key has at most 127 parts. Of two steps of the reader one uses up a character, so the
length of the text bounds the number of steps.
-/

namespace VmDescriptor.Toml

/-- A text without the blanks at its front. -/
def skipBlanks (cs : List Char) : List Char :=
  cs.dropWhile fun c => c == ' ' || c == '\t'

/-- A text without the comment at its front, if there is one. -/
def skipComment : List Char → List Char
  | '#' :: rest => rest.dropWhile isPlain
  | cs => cs

/-- A text without blanks, line breaks and comments at its front. -/
def skipLines (cs : List Char) : List Char :=
  go false cs
where
  go (inComment : Bool) : List Char → List Char
    | '\n' :: rest => go false rest
    | '\r' :: '\n' :: rest => go false rest
    | c :: rest =>
      if inComment then if isPlain c then go true rest else c :: rest
      else if c == ' ' || c == '\t' then go false rest
      else if c == '#' then go true rest
      else c :: rest
    | [] => []

/-- The rest after the end of a line, which may hold blanks and a comment. -/
def endLine? (cs : List Char) : Option (List Char) :=
  match skipComment (skipBlanks cs) with
  | [] => some []
  | '\n' :: rest => some rest
  | '\r' :: '\n' :: rest => some rest
  | _ => none

/-- Whether a character may be part of a key without quotes. -/
def isKeyChar (c : Char) : Bool :=
  c.isAlphanum || c == '_' || c == '-'

/-- The part of a key at the front of a text, and the rest. -/
def keyPart? (cs : List Char) : Option (String × List Char) :=
  match cs with
  | '\x22' :: rest => (basic? rest).map fun (s, rest) => (.ofList s, rest)
  | '\x27' :: rest => (literal? rest).map fun (s, rest) => (.ofList s, rest)
  | cs =>
    let part := cs.takeWhile isKeyChar
    if part.isEmpty then none else some (.ofList part, cs.dropWhile isKeyChar)

/-- The bound on nesting and on the parts of a key. -/
def limit : Nat := 128

/-- The parts of a dotted key, with blanks around each, and the rest. -/
def key? : Nat → List Char → Option (List String × List Char)
  | 0, _ => none
  | parts + 1, cs => do
    let (part, rest) ← keyPart? (skipBlanks cs)
    match skipBlanks rest with
    | '.' :: rest =>
      let (others, rest) ← key? parts rest
      return (part :: others, rest)
    | rest => return ([part], rest)

/-- The keys before the last one, and the last. -/
def splitLast? (keys : List String) : Option (List String × String) :=
  keys.getLast?.map fun last => (keys.dropLast, last)

mutual

/-- The value at the front of a text, inside `depth` arrays and inline tables, and the rest. -/
def value? (steps depth : Nat) (cs : List Char) : Option (Entry × List Char) :=
  match steps, cs with
  | 0, _ => none
  | steps + 1, '[' :: rest =>
    if depth + 1 < limit then items? steps (depth + 1) [] (skipLines rest) else none
  | steps + 1, '\x7b' :: rest =>
    if depth + 1 < limit then
      match skipBlanks rest with
      | '\x7d' :: rest => some (.table .inline [], rest)
      | rest => pairs? steps (depth + 1) [] rest
    else none
  | _ + 1, c :: rest =>
    if c == '\x22' || c == '\x27' then
      (string? (c :: rest)).map fun (s, rest) => (.value (.string (.ofList s)), rest)
    else (word? (c :: rest)).map fun (j, rest) => (.value j, rest)
  | _ + 1, [] => none

/-- The array whose items before the text are `done`, last first. -/
def items? (steps depth : Nat) (done : List Json) (cs : List Char) :
    Option (Entry × List Char) :=
  match steps, cs with
  | 0, _ => none
  | _ + 1, ']' :: rest => some (.value (.array done.reverse), rest)
  | steps + 1, cs => do
    let (e, rest) ← value? steps depth cs
    let done := e.toJson :: done
    match skipLines rest with
    | ',' :: rest => items? steps depth done (skipLines rest)
    | ']' :: rest => some (.value (.array done.reverse), rest)
    | _ => none

/-- The inline table whose entries before the text are `done`. -/
def pairs? (steps depth : Nat) (done : Entries) (cs : List Char) :
    Option (Entry × List Char) :=
  match steps with
  | 0 => none
  | steps + 1 => do
    let (keys, rest) ← key? (limit - 1) cs
    let (path, last) ← splitLast? keys
    match rest with
    | '=' :: rest =>
      let (e, rest) ← value? steps depth (skipBlanks rest)
      let done ← Entries.putInline? path last e done
      match skipBlanks rest with
      | ',' :: rest => pairs? steps depth done rest
      | '\x7d' :: rest => some (.table .inline done, rest)
      | _ => none
    | _ => none

end

/-- The part of a document that has been read. -/
structure Document where
  entries : Entries
  /-- The table that the next keys belong to. -/
  current : List String

namespace Document

/-- The document after a line with a key and a value, and the rest. -/
def pair? (doc : Document) (cs : List Char) : Option (Document × List Char) := do
  let (keys, rest) ← key? (limit - 1) cs
  let (path, last) ← splitLast? keys
  match rest with
  | '=' :: rest =>
    let (e, rest) ← value? (2 * rest.length + 2) 0 (skipBlanks rest)
    let rest ← endLine? rest
    let entries ← Entries.at? doc.current (Entries.put? path last e) doc.entries
    return ({ doc with entries }, rest)
  | _ => none

/-- The document after a header with a key, and the rest. -/
def header? (doc : Document) (create : String → Entries → Option Entries)
    (closing cs : List Char) : Option (Document × List Char) := do
  let (keys, rest) ← key? (limit - 1) cs
  let (path, last) ← splitLast? keys
  guard (closing.isPrefixOf rest)
  let rest ← endLine? (rest.drop closing.length)
  let entries ← Entries.at? path (create last) doc.entries
  return ({ entries, current := keys }, rest)

/-- The document after all lines of a text. -/
def lines? : Nat → Document → List Char → Option Document
  | 0, _, _ => none
  | steps + 1, doc, cs =>
    match skipLines cs with
    | [] => some doc
    | '[' :: '[' :: rest => do
      let (doc, rest) ← doc.header? Entries.openItem? [']', ']'] rest
      lines? steps doc rest
    | '[' :: rest => do
      let (doc, rest) ← doc.header? Entries.openTable? [']'] rest
      lines? steps doc rest
    | rest => do
      let (doc, rest) ← doc.pair? rest
      lines? steps doc rest

end Document

/-- Reads a document as a JSON object. A byte order mark at its front is ignored. -/
def parse? (s : String) : Option Json :=
  let cs := match s.toList with
    | '\ufeff' :: rest => rest
    | cs => cs
  (Document.lines? (cs.length + 1) ⟨[], []⟩ cs).map fun doc =>
    .object (entriesToFields doc.entries)

end VmDescriptor.Toml
