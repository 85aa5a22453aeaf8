import VmDescriptor.Json.Number

/-!
JSON values.

An object keeps its fields in the order in which they were written, with repetitions, and how
their names were spelled. The canonical form of a value has the fields of every object sorted
by name, and of several fields of one name only the last; all names are spelled plainly.
-/

namespace VmDescriptor

namespace Json

/-- How the name of a field stands in a text. -/
inductive Spelling where
  | plain
  /-- With escaped code units. Such a name is never read as a number. -/
  | escaped
  /-- Not at all: the field stands for a value that is written otherwise. -/
  | implied
  deriving DecidableEq

/-- The name of a field. -/
structure Name where
  text : String
  spelling : Spelling
  deriving DecidableEq

/-- A string as a name. -/
instance : Coe String Name where
  coe s := ⟨s, .plain⟩

end Json

/-- A JSON value. -/
inductive Json where
  | null
  | boolean (b : Bool)
  | number (n : Json.Number)
  | string (s : String)
  | array (items : List Json)
  | object (fields : List (Json.Name × Json))
  /-- A part of a text that has the form of a value but denotes none. -/
  | unreadable

namespace Json

instance : Inhabited Json := ⟨.null⟩

/-- An integer as a value. -/
def int (n : Int) : Json :=
  .number (.integer n)

/-- A natural number as a value. -/
def nat (n : Nat) : Json :=
  int n

/-- The fields with the value of one name set, in a list sorted by name. -/
def setField (name : String) (value : Json) : List (Name × Json) → List (Name × Json)
  | [] => [(name, value)]
  | (name', value') :: rest =>
    match compare name name'.text with
    | .lt => (name, value) :: (name', value') :: rest
    | .eq => (name, value) :: rest
    | .gt => (name', value') :: setField name value rest

mutual

/-- The canonical form of a value. -/
def canonical : Json → Json
  | .array items => .array (canonicalItems items)
  | .object fields => .object (canonicalFields fields [])
  | j => j

/-- The canonical forms of the items of an array. -/
def canonicalItems : List Json → List Json
  | [] => []
  | j :: rest => canonical j :: canonicalItems rest

/-- The sorted fields `done`, with the fields of an object set one after the other. -/
def canonicalFields : List (Name × Json) → List (Name × Json) → List (Name × Json)
  | [], done => done
  | (name, j) :: rest, done => canonicalFields rest (setField name.text (canonical j) done)

end

mutual

/-- Whether all parts of the value are readable. -/
def isReadable : Json → Bool
  | .array items => itemsReadable items
  | .object fields => fieldsReadable fields
  | .unreadable => false
  | _ => true

/-- Whether all parts of the items of an array are readable. -/
def itemsReadable : List Json → Bool
  | [] => true
  | j :: rest => isReadable j && itemsReadable rest

/-- Whether all parts of the fields of an object are readable. -/
def fieldsReadable : List (Name × Json) → Bool
  | [] => true
  | (_, j) :: rest => isReadable j && fieldsReadable rest

end

/-- The value of a field of an object. -/
def field? : Json → String → Option Json
  | .object fields, name => (fields.find? (·.1.text == name)).map Prod.snd
  | _, _ => none

end Json

end VmDescriptor
