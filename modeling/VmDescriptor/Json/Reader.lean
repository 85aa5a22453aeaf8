import VmDescriptor.Json.Token

/-!
Reading JSON texts.

The reader takes one token after another and keeps the arrays and objects that are still open
on a stack. A text holds one value. An array or object that lies inside 127 others is an
unreadable value, and so is an object with an unreadable name.
-/

namespace VmDescriptor.Json

/-- An array or object that is still open, its parts last first. -/
inductive Frame where
  | array (items : List Json)
  /-- An object, and whether all its names were readable. -/
  | object (fields : List (Name × Json)) (readable : Bool)
  /-- An object in which the value of a name comes next. -/
  | field (fields : List (Name × Json)) (readable : Bool) (name : Name)

/-- What the reader takes next. -/
inductive Expected where
  | value
  /-- A value or the end of the array just opened. -/
  | firstItem
  | name
  /-- A name or the end of the object just opened. -/
  | firstName
  | colon
  /-- A comma or the end of the innermost array or object. -/
  | more
  /-- Nothing: the value is complete. -/
  | nothing (value : Json)

/-- The state of the reader: the open arrays and objects, innermost first. -/
structure Reading where
  frames : List Frame
  expected : Expected

namespace Reading

/-- The greatest number of arrays and objects that may lie inside each other. -/
def maxDepth : Nat := 127

/-- The value of an array or object inside others, unless these are too many. -/
def inside (frames : List Frame) (value : Json) : Json :=
  if (frames.drop (maxDepth - 1)).isEmpty then value else .unreadable

/-- The state after a complete value. -/
def complete (value : Json) : List Frame → Option Reading
  | [] => some ⟨[], .nothing value⟩
  | .array items :: rest => some ⟨.array (value :: items) :: rest, .more⟩
  | .field fields readable name :: rest =>
    some ⟨.object ((name, value) :: fields) readable :: rest, .more⟩
  | .object .. :: _ => none

/-- The state after a token with which a value begins. -/
def begin (frames : List Frame) : Token → Option Reading
  | .openArray => some ⟨.array [] :: frames, .firstItem⟩
  | .openObject => some ⟨.object [] true :: frames, .firstName⟩
  | .string s _ => complete (.string s) frames
  | .word value => complete value frames
  | _ => none

/-- The state after a bracket that closes the innermost array or object. -/
def close : List Frame → Token → Option Reading
  | .array items :: rest, .closeArray => complete (inside rest (.array items.reverse)) rest
  | .object fields readable :: rest, .closeObject =>
    complete (if readable then inside rest (.object fields.reverse) else .unreadable) rest
  | _, _ => none

/-- The state after a name in the innermost object. -/
def name : List Frame → Token → Option Reading
  | .object fields readable :: rest, .string s spelling =>
    some ⟨.field fields readable ⟨s, spelling⟩ :: rest, .colon⟩
  | .object fields _ :: rest, .word .unreadable => some ⟨.field fields false "" :: rest, .colon⟩
  | _, _ => none

/-- The state after one more token, unless that token is out of place. -/
def step (state : Reading) (token : Token) : Option Reading :=
  let frames := state.frames
  match state.expected, token with
  | .value, t => begin frames t
  | .firstItem, .closeArray => close frames .closeArray
  | .firstItem, t => begin frames t
  | .name, t => name frames t
  | .firstName, .closeObject => close frames .closeObject
  | .firstName, t => name frames t
  | .colon, .colon => some ⟨frames, .value⟩
  | .more, .comma =>
    match frames with
    | .array _ :: _ => some ⟨frames, .value⟩
    | .object .. :: _ => some ⟨frames, .name⟩
    | _ => none
  | .more, t => close frames t
  | _, _ => none

end Reading

/-- Reads the value that a text holds. -/
def parse? (s : String) : Option Json := do
  let tokens ← Token.scan? s.toList
  let state ← tokens.foldlM Reading.step ⟨[], .value⟩
  match state.expected with
  | .nothing value => some value
  | _ => none

end VmDescriptor.Json
