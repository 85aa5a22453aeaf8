import VmDescriptor.Codec.Record

/-!
Enumerations and tagged records as JSON values.

A member of an enumeration is written as its name; it may also be read from an object that
writes that one name, with a value that says nothing more. A record of one of several kinds is
written with the name of its kind in a field of its own, the tag; it may also be read from an
array that begins with the tag.
-/

namespace VmDescriptor

namespace Codec

variable {α : Type}

/-- The member with a name, or else `other`, if there is one. -/
def member (all : List α) (name : α → String) (other : Option α) (s : String) :
    Except DecodeError α :=
  match all.find? (name · == s), other with
  | some a, _ => .ok a
  | none, some a => .ok a
  | none, none => .error (.unknownVariant s (all.map name))

/-- An enumeration, with the member that any other name stands for, if there is one. -/
def enumeration (all : List α) (name : α → String) (other : Option α) : Codec α where
  encode a := .string (name a)
  decode form
    | .string s => member all name other s
    | .object [(⟨s, spelling⟩, j)] =>
      if spelling = .implied then .error .unusable
      else do
        let a ← member all name other s
        if form.isUnit j then .ok a else .error .unusable
    | _ => .error .unusable

/-- The fields of an object but those of one name. -/
def without (name : String) (fields : List (Json.Name × Json)) : List (Json.Name × Json) :=
  fields.filter (·.1.text != name)

/-- The value of a tag that is written exactly once. -/
def soleTag (tag : String) (fields : List (Json.Name × Json)) : Except DecodeError Json :=
  match Fields.occurrences tag fields with
  | [] => .error (.missingField tag)
  | [(_, j)] => .ok j
  | _ => .error .unusable

/-- Reads a string. -/
def tagText : Json → Except DecodeError String
  | .string s => .ok s
  | _ => .error .unusable

/-- Reads what stands beside the tag of a record whose kind has a name. All parts of it must be
readable, also those that are no fields of the record. -/
def contents (kinds : List (String × (Form → Json → Except DecodeError α))) (name : String)
    (j : Json) : Except DecodeError α := do
  let (_, read) ← member kinds Prod.fst none name
  if j.isReadable then read .tagged j else .error .unusable

/-- A record of one of several kinds: `kinds` has the name of each kind with the fields of its
records, and `kind` the name and the fields of a given record. -/
def tagged (tag : String) (kinds : List (String × (Form → Json → Except DecodeError α)))
    (kind : α → String × List (Json.Name × Json)) : Codec α where
  encode a := .object ((tag, .string (kind a).1) :: (kind a).2)
  decode _
    | .object fields => do
      let name ← soleTag tag fields >>= tagText
      contents kinds name (.object (without tag fields))
    | .array (j :: items) => do
      contents kinds (← tagText j) (.array items)
    | .array [] => .error (.missingField tag)
    | _ => .error .unusable

end Codec

end VmDescriptor
